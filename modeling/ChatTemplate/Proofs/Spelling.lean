import ChatTemplate.Document.Lexer

/-! How a template spells the texts inside it. Literal text, keywords, conditions and exec blocks drop
their escapes and run to the first unescaped stop; a body keeps its escapes and runs to the
parenthesis that matches its opening one. Both readings are stated without a scanner, and the
scanner's functions are shown to compute them. -/
namespace ChatTemplate.Spelling

/-- A fragment without an unescaped stop, and the text it stands for. -/
inductive Spells (stops : Char → Bool) : List Char → List Char → Prop where
  | nil : Spells stops [] []
  | plain (bare : c ≠ '\\') (inside : stops c = false) (rest : Spells stops fragment text) :
      Spells stops (c :: fragment) (c :: text)
  | escaped (c : Char) (rest : Spells stops fragment text) :
      Spells stops ('\\' :: c :: fragment) (c :: text)

/-- A source up to its first unescaped stop or to its end: the text it stands for and what is left.
A lone backslash at the end stands for nothing. -/
inductive Reads (stops : Char → Bool) : List Char → List Char → List Char → Prop where
  | stopped (front : Spells stops fragment text) (bare : c ≠ '\\') (stop : stops c = true) :
      Reads stops (fragment ++ c :: rest) text (c :: rest)
  | ended (front : Spells stops fragment text) : Reads stops fragment text []
  | lone (front : Spells stops fragment text) : Reads stops (fragment ++ ['\\']) text []

/-- A text without backslashes and stops stands for itself. -/
theorem spells_self (clear : ∀ c ∈ text, c ≠ '\\' ∧ stops c = false) : Spells stops text text := by
  induction text with
  | nil => exact .nil
  | cons c rest ih =>
    obtain ⟨bare, inside⟩ := clear c List.mem_cons_self
    exact .plain bare inside (ih fun d member => clear d (List.mem_cons_of_mem c member))

/-- A character that no escape rule takes is no backslash. -/
theorem bare_of_unmatched (lone : c = '\\' → rest = [] → False)
    (pair : ∀ (next : Char) (more : List Char), c = '\\' → rest = next :: more → False) :
    c ≠ '\\' := by
  intro same
  cases rest with
  | nil => exact lone same rfl
  | cons next more => exact pair next more same rfl

theorem takeEscaped_plain (bare : c ≠ '\\') (inside : stops c = false) (rest : List Char) :
    takeEscaped stops (c :: rest) =
      (c :: (takeEscaped stops rest).1, (takeEscaped stops rest).2) := by
  simp [takeEscaped, bare, inside]

theorem takeEscaped_stop (bare : c ≠ '\\') (stop : stops c = true) (rest : List Char) :
    takeEscaped stops (c :: rest) = ([], c :: rest) := by
  simp [takeEscaped, bare, stop]

/-- What follows a fragment is read as if it stood alone. -/
theorem takeEscaped_append (front : Spells stops fragment text) (rest : List Char) :
    takeEscaped stops (fragment ++ rest) =
      (text ++ (takeEscaped stops rest).1, (takeEscaped stops rest).2) := by
  induction front with
  | nil => rfl
  | plain bare inside front ih =>
    rw [List.cons_append, takeEscaped_plain bare inside, ih]
    rfl
  | escaped c front ih =>
    simp only [List.cons_append, takeEscaped, ih]

theorem takeEscaped_complete (reads : Reads stops source text rest) :
    takeEscaped stops source = (text, rest) := by
  cases reads with
  | stopped front bare stop =>
    rw [takeEscaped_append front, takeEscaped_stop bare stop, List.append_nil]
  | ended front =>
    have whole := takeEscaped_append front []
    simpa [takeEscaped] using whole
  | lone front =>
    rw [takeEscaped_append front]
    simp [takeEscaped]

theorem Reads.plain (bare : c ≠ '\\') (inside : stops c = false)
    (reads : Reads stops source text rest) : Reads stops (c :: source) (c :: text) rest := by
  cases reads with
  | stopped front last stop => exact .stopped (.plain bare inside front) last stop
  | ended front => exact .ended (.plain bare inside front)
  | lone front => exact .lone (.plain bare inside front)

theorem Reads.escaped (c : Char) (reads : Reads stops source text rest) :
    Reads stops ('\\' :: c :: source) (c :: text) rest := by
  cases reads with
  | stopped front last stop => exact .stopped (.escaped c front) last stop
  | ended front => exact .ended (.escaped c front)
  | lone front => exact .lone (.escaped c front)

theorem takeEscaped_sound (stops : Char → Bool) (source : List Char) :
    Reads stops source (takeEscaped stops source).1 (takeEscaped stops source).2 := by
  fun_induction takeEscaped stops source with
  | case1 => exact .ended .nil
  | case2 => exact .lone .nil
  | case3 c rest taken ih => exact ih.escaped c
  | case4 c rest lone pair stop => exact .stopped .nil (bare_of_unmatched lone pair) stop
  | case5 c rest lone pair inside taken ih =>
    exact ih.plain (bare_of_unmatched lone pair) (by simpa using inside)

/-- Reading up to a stop is exactly what the scanner does. -/
theorem takeEscaped_iff :
    takeEscaped stops source = (text, rest) ↔ Reads stops source text rest := by
  constructor
  · intro taken
    simpa [taken] using takeEscaped_sound stops source
  · exact takeEscaped_complete

theorem spells_sublist (front : Spells stops fragment text) : text.Sublist fragment := by
  induction front with
  | nil => exact .slnil
  | plain bare inside front ih => exact ih.cons_cons _
  | escaped c front ih => exact (ih.cons_cons c).cons '\\'

/-- A fragment that stands for itself holds neither a backslash nor a stop. -/
theorem spells_whole (front : Spells stops fragment text) (same : text = fragment) :
    ∀ c ∈ fragment, c ≠ '\\' ∧ stops c = false := by
  induction front with
  | nil => exact nofun
  | @plain c fragment text bare inside front ih =>
    have rest := ih (List.cons.inj same).2
    intro d member
    rcases List.mem_cons.mp member with rfl | behind
    · exact ⟨bare, inside⟩
    · exact rest d behind
  | @escaped fragment text c front ih =>
    have shorter := (spells_sublist front).length_le
    have lengths := congrArg List.length same
    simp only [List.length_cons] at lengths
    omega

theorem reads_suffix (reads : Reads stops source text rest) : rest <:+ source := by
  cases reads with
  | stopped front bare stop => exact List.suffix_append _ _
  | ended front | lone front => exact List.nil_suffix

/-- The characters of a text that no backslash escapes, unless an unpaired backslash ends it. -/
def unescaped? : List Char → Option (List Char)
  | [] => some []
  | ['\\'] => none
  | '\\' :: _ :: rest => unescaped? rest
  | c :: rest => (unescaped? rest).map (c :: ·)

/-- The parentheses close what they open and `depth` more, and never close more than that on the
way. -/
structure Balanced (depth : Nat) (text : List Char) : Prop where
  covered : ∀ front, front <+: text → front.count ')' ≤ front.count '(' + depth
  even : text.count ')' = text.count '(' + depth

/-- A body that can stand in parentheses: no backslash is left without its character, and the
unescaped parentheses balance. -/
def Closed (body : List Char) : Prop :=
  ∃ plain, unescaped? body = some plain ∧ Balanced 0 plain

theorem balanced_nil : Balanced depth [] ↔ depth = 0 := by
  constructor
  · intro balanced
    simpa using balanced.even.symm
  · rintro rfl
    exact ⟨by simp, rfl⟩

private theorem balanced_cons : Balanced depth (c :: text) ↔
    (∀ front, front <+: text → (c :: front).count ')' ≤ (c :: front).count '(' + depth) ∧
      (c :: text).count ')' = (c :: text).count '(' + depth := by
  constructor
  · intro balanced
    exact ⟨fun front within => balanced.covered _ (List.cons_prefix_cons.mpr ⟨rfl, within⟩),
      balanced.even⟩
  · rintro ⟨covered, even⟩
    refine ⟨fun front within => ?_, even⟩
    rcases List.prefix_cons_iff.mp within with rfl | ⟨front, rfl, inside⟩
    · simp
    · exact covered front inside

theorem balanced_open : Balanced depth ('(' :: text) ↔ Balanced (depth + 1) text := by
  have shift (front : List Char) :
      ('(' :: front).count ')' = front.count ')' ∧ ('(' :: front).count '(' = front.count '(' + 1 :=
    ⟨List.count_cons_of_ne (by decide), List.count_cons_self⟩
  rw [balanced_cons]
  simp only [shift, Nat.add_assoc, Nat.add_comm 1]
  exact ⟨fun ⟨covered, even⟩ => ⟨covered, even⟩, fun balanced => ⟨balanced.covered, balanced.even⟩⟩

theorem balanced_close :
    Balanced depth (')' :: text) ↔ ∃ outer, depth = outer + 1 ∧ Balanced outer text := by
  have shift (front : List Char) :
      (')' :: front).count ')' = front.count ')' + 1 ∧ (')' :: front).count '(' = front.count '(' :=
    ⟨List.count_cons_self, List.count_cons_of_ne (by decide)⟩
  rw [balanced_cons]
  simp only [shift]
  constructor
  · rintro ⟨covered, even⟩
    have positive := covered [] (List.nil_prefix)
    simp only [List.count_nil] at positive
    refine ⟨depth - 1, by omega, fun front within => ?_, by omega⟩
    have := covered front within
    omega
  · rintro ⟨outer, rfl, balanced⟩
    refine ⟨fun front within => ?_, by have := balanced.even; omega⟩
    have := balanced.covered front within
    omega

theorem balanced_other (opens : c ≠ '(') (closes : c ≠ ')') :
    Balanced depth (c :: text) ↔ Balanced depth text := by
  rw [balanced_cons]
  simp only [List.count_cons_of_ne opens, List.count_cons_of_ne closes]
  exact ⟨fun ⟨covered, even⟩ => ⟨covered, even⟩, fun balanced => ⟨balanced.covered, balanced.even⟩⟩

theorem unescaped?_plain (bare : c ≠ '\\') (rest : List Char) :
    unescaped? (c :: rest) = (unescaped? rest).map (c :: ·) := by
  simp [unescaped?, bare]

theorem takeBody_plain (bare : c ≠ '\\') (rest : List Char) :
    takeBody depth (c :: rest) =
      if c = '(' then (takeBody (depth + 1) rest).map fun taken => (c :: taken.1, taken.2)
      else if c = ')' then
        match depth with
        | 0 => some ([], rest)
        | outer + 1 => (takeBody outer rest).map fun taken => (c :: taken.1, taken.2)
      else (takeBody depth rest).map fun taken => (c :: taken.1, taken.2) := by
  cases depth with
  | zero => exact takeBody.eq_4 c rest (fun same _ => bare same) fun _ _ same _ => bare same
  | succ outer =>
    exact takeBody.eq_5 c rest outer (fun same _ => bare same) fun _ _ same _ => bare same

/-- A body read from inside `depth` open parentheses. -/
theorem takeBody_complete (closed : unescaped? body = some plain) (balanced : Balanced depth plain)
    (after : List Char) : takeBody depth (body ++ ')' :: after) = some (body, after) := by
  fun_induction unescaped? body generalizing depth plain with
  | case1 =>
    cases closed
    rw [balanced_nil.mp balanced]
    rfl
  | case2 => cases closed
  | case3 c rest ih => simp [takeBody, ih closed balanced]
  | case4 c rest lone pair ih =>
    obtain ⟨inner, found, rfl⟩ := Option.map_eq_some_iff.mp closed
    rw [List.cons_append, takeBody_plain (bare_of_unmatched lone pair)]
    by_cases opens : c = '('
    · subst opens
      simp [ih found (balanced_open.mp balanced)]
    · by_cases closes : c = ')'
      · subst closes
        obtain ⟨outer, rfl, within⟩ := balanced_close.mp balanced
        simp [ih found within]
      · simp [opens, closes, ih found ((balanced_other opens closes).mp balanced)]

private theorem taken_append {found : Option (List Char × List Char)} {body after : List Char}
    (front : List Char)
    (mapped : (found.map fun taken => (front ++ taken.1, taken.2)) = some (body, after)) :
    ∃ inner, found = some (inner, after) ∧ body = front ++ inner := by
  obtain ⟨⟨inner, last⟩, present, same⟩ := Option.map_eq_some_iff.mp mapped
  simp only [Prod.mk.injEq] at same
  exact ⟨inner, same.2 ▸ present, same.1.symm⟩

theorem takeBody_sound (taken : takeBody depth source = some (body, after)) :
    source = body ++ ')' :: after ∧
      ∃ plain, unescaped? body = some plain ∧ Balanced depth plain := by
  fun_induction takeBody depth source generalizing body with
  | case1 | case2 => cases taken
  | case3 depth c rest ih =>
    obtain ⟨inner, found, rfl⟩ := taken_append ['\\', c] taken
    obtain ⟨rfl, plain, clear, balanced⟩ := ih found
    exact ⟨rfl, plain, clear, balanced⟩
  | case4 depth rest lone pair ih =>
    obtain ⟨inner, found, rfl⟩ := taken_append ['('] taken
    obtain ⟨rfl, plain, clear, balanced⟩ := ih found
    exact ⟨rfl, '(' :: plain, by simp [unescaped?, clear], balanced_open.mpr balanced⟩
  | case5 rest =>
    simp only [Option.some.injEq, Prod.mk.injEq] at taken
    obtain ⟨rfl, rfl⟩ := taken
    exact ⟨rfl, [], rfl, balanced_nil.mpr rfl⟩
  | case6 rest outer lone pair opens ih =>
    obtain ⟨inner, found, rfl⟩ := taken_append [')'] taken
    obtain ⟨rfl, plain, clear, balanced⟩ := ih found
    exact ⟨rfl, ')' :: plain, by simp [unescaped?, clear],
      balanced_close.mpr ⟨outer, rfl, balanced⟩⟩
  | case7 depth c rest lone pair opens closes ih =>
    obtain ⟨inner, found, rfl⟩ := taken_append [c] taken
    obtain ⟨rfl, plain, clear, balanced⟩ := ih found
    refine ⟨rfl, c :: plain, ?_, (balanced_other opens closes).mpr balanced⟩
    rw [List.singleton_append, unescaped?_plain (bare_of_unmatched lone pair), clear]
    rfl

/-- A body ends at the parenthesis that matches its opening one, and nowhere else. -/
theorem takeBody_iff :
    takeBody 0 source = some (body, after) ↔ source = body ++ ')' :: after ∧ Closed body := by
  constructor
  · exact takeBody_sound
  · rintro ⟨rfl, plain, clear, balanced⟩
    exact takeBody_complete clear balanced after

end ChatTemplate.Spelling
