import RollupBridge.Proofs.Json.Reader

namespace RollupBridge.Json

/-- Where a scan stands: outside of strings, or in one behind some of its characters, which stand in
reverse, there maybe behind a backslash or in front of some digits of a unit. -/
inductive Mode
  | outside
  | inside (raw : List Char)
  | escaped (raw : List Char)
  | unit (left : Nat) (raw : List Char)

/-- A scan of the members of an object: where it stands, how many brackets are open, whether a
string is a key of the object there, and how many keys have been found. It holds no value. A text
that is spelled is scanned in one way, also from within a string, where every quote is taken for its
opposite. -/
structure Scan where
  mode : Mode
  depth : Nat
  isKey : Bool
  found : Nat

/-- The key is one of the names. -/
def isAmong (names : List String) (key : Option String) : Bool := names.any fun name => key == some name

/-- How many members have a key among the names. -/
def occurrences (names : List String) (members : List (Option String × Json)) : Nat :=
  members.countP fun member => isAmong names member.1

/-- The text between two quotes spells one of the names. -/
def isNamed (names : List String) (text : List Char) : Bool :=
  match readString (text ++ ['"']) with
  | some (key, []) => isAmong names key
  | _ => false

theorem occurrences_cons (names : List String) (member : Option String × Json)
    (members : List (Option String × Json)) :
    occurrences names (member :: members) =
      (isAmong names member.1).toNat + occurrences names members := by
  rw [occurrences, List.countP_cons, Nat.add_comm]
  cases isAmong names member.1 <;> rfl

namespace Scan

def stepOutside (s : Scan) (c : Char) : Option Scan :=
  if isGap c then some s
  else if s.depth = 0 ∨ c = '\\' then none
  else match c with
    | '"' => some { s with mode := .inside [] }
    | '[' | '\x7b' => some { s with depth := s.depth + 1, isKey := false }
    | ']' | '\x7d' => some { s with depth := s.depth - 1, isKey := false }
    | ',' => some { s with isKey := s.depth == 1 }
    | ':' => some { s with isKey := false }
    | _ => some s

/-- One character. Outside of strings nothing but gaps stands behind the object, and no backslash. -/
def step (names : List String) (s : Scan) (c : Char) : Option Scan :=
  match s.mode with
  | .outside => s.stepOutside c
  | .inside raw =>
    if c = '"' then
      some { s with mode := .outside, found := s.found + (s.isKey && isNamed names raw.reverse).toNat }
    else if c = '\\' then some { s with mode := .escaped (c :: raw) }
    else if c.toNat < 0x20 then none
    else some { s with mode := .inside (c :: raw) }
  | .escaped raw =>
    if c = 'u' then some { s with mode := .unit 4 (c :: raw) }
    else if (escaped? c).isSome then some { s with mode := .inside (c :: raw) }
    else none
  | .unit left raw =>
    if (Hex.value? c).isNone then none
    else some { s with mode := if left ≤ 1 then .inside (c :: raw) else .unit (left - 1) (c :: raw) }

def run (names : List String) : Scan → List Char → Option Scan
  | s, [] => some s
  | s, c :: text => (s.step names c).bind fun s => s.run names text

variable {names : List String} {s s' e : Scan} {c : Char} {raw text : List Char} {depth found : Nat}
  {isKey : Bool} {pieces : List Piece}

theorem run_cons (names : List String) (s : Scan) (c : Char) (text : List Char) :
    s.run names (c :: text) = (s.step names c).bind fun s => s.run names text := rfl

theorem run_append (names : List String) (s : Scan) (text rest : List Char) :
    s.run names (text ++ rest) = (s.run names text).bind fun s => s.run names rest := by
  induction text generalizing s with
  | nil => rfl
  | cons c text ih =>
    rw [List.cons_append, run_cons, run_cons]
    cases s.step names c with
    | none => rfl
    | some s => exact ih s

theorem run_append_eq_some {rest : List Char} :
    s.run names (text ++ rest) = some e ↔
      ∃ s', s.run names text = some s' ∧ s'.run names rest = some e := by
  rw [run_append, Option.bind_eq_some_iff]

theorem run_cons_eq_some :
    s.run names (c :: text) = some e ↔ ∃ s', s.step names c = some s' ∧ s'.run names text = some e := by
  rw [run_cons, Option.bind_eq_some_iff]

section Spelled

theorem run_gap (hgap : IsGap text) : run names ⟨.outside, depth, isKey, found⟩ text =
    some ⟨.outside, depth, isKey, found⟩ := by
  induction text with
  | nil => rfl
  | cons c text ih =>
    have hc : isGap c = true := hgap c List.mem_cons_self
    have hstep : step names ⟨.outside, depth, isKey, found⟩ c = some ⟨.outside, depth, isKey, found⟩ := by
      unfold step stepOutside
      rw [if_pos hc]
    rw [run_cons, hstep]
    exact ih fun other hother => hgap other (List.mem_cons_of_mem _ hother)

theorem step_plain (hc : isPlain c = true) : step names ⟨.outside, depth + 1, isKey, found⟩ c =
    some ⟨.outside, depth + 1, isKey, found⟩ := by
  simp only [isPlain, List.mem_cons, List.not_mem_nil, or_false, not_or, decide_eq_true_eq] at hc
  simp [step, stepOutside, hc]

theorem run_plain (hplain : ArePlain text) :
    run names ⟨.outside, depth + 1, isKey, found⟩ text = some ⟨.outside, depth + 1, isKey, found⟩ := by
  induction text with
  | nil => rfl
  | cons c text ih =>
    rw [run_cons, step_plain (hplain c List.mem_cons_self)]
    exact ih fun other hother => hplain other (List.mem_cons_of_mem _ hother)

theorem run_unit {a b c d : Char} {value : Nat} (hunit : unit? a b c d = some value) (raw : List Char) :
    run names ⟨.unit 4 raw, depth, isKey, found⟩ [a, b, c, d] =
      some ⟨.inside (d :: c :: b :: a :: raw), depth, isKey, found⟩ := by
  obtain ⟨va, ha, hunit⟩ := Option.bind_eq_some_iff.mp hunit
  obtain ⟨vb, hb, hunit⟩ := Option.bind_eq_some_iff.mp hunit
  obtain ⟨vc, hc, hunit⟩ := Option.bind_eq_some_iff.mp hunit
  obtain ⟨vd, hd, hunit⟩ := Option.bind_eq_some_iff.mp hunit
  simp [run, step, ha, hb, hc, hd]

/-- Behind the text between two quotes a scan that was in a string is still there. -/
theorem run_pieces (hspells : SpellsPieces pieces text) (raw : List Char) :
    run names ⟨.inside raw, depth, isKey, found⟩ text =
      some ⟨.inside (text.reverse ++ raw), depth, isKey, found⟩ := by
  induction hspells generalizing raw with
  | nil => rfl
  | @char c pieces text hquote hslash hcontrol _ ih =>
    simp [run_cons, step, hquote, hslash, Nat.not_lt.mpr hcontrol, ih]
  | @letter e c pieces text hescaped _ ih =>
    have hunit : e ≠ 'u' := by
      rintro rfl
      cases hescaped
    simp [run_cons, step, hunit, hescaped, ih]
  | @unit a b c d value pieces text hunit _ ih =>
    have hsplit : '\\' :: 'u' :: a :: b :: c :: d :: text = ['\\', 'u'] ++ ([a, b, c, d] ++ text) := rfl
    have hmark : run names ⟨.inside raw, depth, isKey, found⟩ ['\\', 'u'] =
        some ⟨.unit 4 ('u' :: '\\' :: raw), depth, isKey, found⟩ := by simp [run, step]
    rw [hsplit, run_append, hmark, Option.bind_some, run_append, run_unit hunit, Option.bind_some, ih]
    simp

/-- A string is passed as a whole, and counted if it is a key among the names. -/
theorem run_string (hspells : SpellsPieces pieces text) :
    run names ⟨.outside, depth + 1, isKey, found⟩ ('"' :: text ++ ['"']) =
      some ⟨.outside, depth + 1, isKey, found + (isKey && isNamed names text).toNat⟩ := by
  have hopen : step names ⟨.outside, depth + 1, isKey, found⟩ '"' =
      some ⟨.inside [], depth + 1, isKey, found⟩ := by simp [step, stepOutside, isGap]
  rw [List.cons_append, run_cons, hopen, Option.bind_some, run_append, run_pieces hspells]
  simp [run, step]

theorem isNamed_of_spells {key : Option String} (hspells : SpellsString key text) :
    isNamed names text = isAmong names key := by
  rw [isNamed, readString_append hspells]

/-- A key is passed with its colon, and counted if it is one of the object among the names. -/
theorem run_key {key : Option String} (hkey : SpellsKey key text) :
    run names ⟨.outside, depth + 1, isKey, found⟩ text =
      some ⟨.outside, depth + 1, false, found + (isKey && isAmong names key).toNat⟩ := by
  obtain @⟨before, text, after, hbefore, hstring, hafter⟩ := hkey
  have hsplit : before ++ '"' :: text ++ '"' :: after ++ [':'] =
      before ++ (('"' :: text ++ ['"']) ++ (after ++ [':'])) := by simp
  have hnamed : isNamed names text = isAmong names key := isNamed_of_spells hstring
  obtain ⟨pieces, hpieces, _⟩ := hstring
  rw [hsplit, run_append, run_gap hbefore, Option.bind_some, run_append, run_string hpieces,
    Option.bind_some, run_append, run_gap hafter, hnamed]
  rfl

/-- The scan passes a part of an object without counting anything. -/
def Passes (names : List String) : Part → List Char → Prop
  | .value _, text | .padded _, text => ∀ depth found,
      run names ⟨.outside, depth + 1, false, found⟩ text = some ⟨.outside, depth + 1, false, found⟩
  | .items _, text | .members _, text => ∀ depth found,
      run names ⟨.outside, depth + 2, false, found⟩ text = some ⟨.outside, depth + 2, false, found⟩

/-- A scalar is passed wherever no key stands. -/
theorem run_scalar {value : Json} (hscalar : SpellsScalar value text) :
    run names ⟨.outside, depth + 1, false, found⟩ text = some ⟨.outside, depth + 1, false, found⟩ := by
  cases hscalar with
  | null | true | false => exact run_plain (by decide)
  | number hnumber => exact run_plain hnumber.arePlain
  | string hstring =>
    obtain ⟨pieces, hpieces, _⟩ := hstring
    exact run_string hpieces

theorem run_bracket {rest : List Char} : run names ⟨.outside, depth + 1, isKey, found⟩ ('[' :: rest) =
    run names ⟨.outside, depth + 2, false, found⟩ rest := rfl

theorem run_brace {rest : List Char} : run names ⟨.outside, depth + 1, isKey, found⟩ ('\x7b' :: rest) =
    run names ⟨.outside, depth + 2, false, found⟩ rest := rfl

theorem passes_of_spells {part : Part} (hspells : Spells part text) : Passes names part text := by
  induction hspells with
  | scalar hscalar => exact fun depth found => run_scalar hscalar
  | @emptyArray gap hgap =>
    intro depth found
    rw [List.cons_append, run_bracket, run_append, run_gap hgap]
    rfl
  | @array items text _ ih =>
    intro depth found
    rw [List.cons_append, run_bracket, run_append, ih]
    rfl
  | @emptyObject gap hgap =>
    intro depth found
    rw [List.cons_append, run_brace, run_append, run_gap hgap]
    rfl
  | @object members text _ ih =>
    intro depth found
    rw [List.cons_append, run_brace, run_append, ih]
    rfl
  | @padded value before text after hbefore _ hafter ih =>
    intro depth found
    rw [run_append, run_append, run_gap hbefore, Option.bind_some, ih, Option.bind_some, run_gap hafter]
  | item _ ih => exact fun depth found => ih (depth + 1) found
  | @items item items text rest _ _ ihItem ih =>
    intro depth found
    rw [run_append, ihItem, Option.bind_some]
    exact ih depth found
  | @member key value keyText text hkey _ ih =>
    intro depth found
    rw [run_append, run_key hkey]
    exact ih (depth + 1) found
  | @members key value members keyText text rest hkey _ _ ihValue ih =>
    intro depth found
    rw [run_append, run_append, run_key hkey, Option.bind_some, ihValue, Option.bind_some]
    exact ih depth found

/-- The keys of the object that are among the names are counted. -/
theorem run_members {members : List (Option String × Json)} (hspells : Spells (.members members) text) :
    run names ⟨.outside, 1, true, found⟩ text =
      some ⟨.outside, 1, false, found + occurrences names members⟩ := by
  induction members generalizing text found with
  | nil => cases hspells
  | cons member members ih =>
    cases hspells with
    | member hkey hvalue =>
      rw [run_append, run_key hkey, Option.bind_some, passes_of_spells hvalue, occurrences_cons]
      rfl
    | members hkey hvalue hmembers =>
      rw [run_append, run_append, run_key hkey, Option.bind_some, passes_of_spells hvalue, Option.bind_some]
      refine (ih hmembers).trans ?_
      rw [occurrences_cons, Bool.true_and, Nat.add_assoc]

/-- The text of an object is scanned from behind its brace on, and the scan ends behind the other. -/
theorem exists_run_object {members : List (Option String × Json)}
    (hspells : Spells (.value (.object members)) text) :
    ∃ body, text = '\x7b' :: body ∧ ∀ names rest, IsGap rest →
      run names ⟨.outside, 1, true, 0⟩ (body ++ rest) =
        some ⟨.outside, 0, false, occurrences names members⟩ := by
  have hclose (names : List String) {rest : List Char} (hrest : IsGap rest) (isKey : Bool) (found : Nat) :
      run names ⟨.outside, 1, isKey, found⟩ ('\x7d' :: rest) = some ⟨.outside, 0, false, found⟩ :=
    run_gap hrest
  cases hspells with
  | scalar hscalar => cases hscalar
  | emptyObject hgap =>
    refine ⟨_, List.cons_append .., fun names rest hrest => ?_⟩
    rw [List.append_assoc, run_append, run_gap hgap]
    exact hclose names hrest true 0
  | object hmembers =>
    refine ⟨_, List.cons_append .., fun names rest hrest => ?_⟩
    rw [List.append_assoc, run_append, run_members hmembers, Nat.zero_add]
    exact hclose names hrest false _

end Spelled

section Flipped

/-- The scan stands between two characters of a string. -/
def Inside (s : Scan) : Prop := ∃ raw, s.mode = .inside raw

/-- What is neither a quote nor a backslash leaves the scan in a string. -/
theorem step_inside (hmode : s.mode = .inside raw) (hquote : c ≠ '"') (hslash : c ≠ '\\')
    (hstep : s.step names c = some s') : s' = { s with mode := .inside (c :: raw) } := by
  simp only [step, hmode, if_neg hquote, if_neg hslash] at hstep
  split at hstep
  · cases hstep
  · exact (Option.some.inj hstep).symm

/-- A quote leaves the string. -/
theorem step_quote (hmode : s.mode = .inside raw) (hstep : s.step names '"' = some s') :
    s' = { s with mode := .outside, found := s.found + (s.isKey && isNamed names raw.reverse).toNat } := by
  simp only [step, hmode, if_true] at hstep
  exact (Option.some.inj hstep).symm

/-- A quote leads into a string. -/
theorem step_open (hmode : s.mode = .outside) (hstep : s.step names '"' = some s') :
    s' = { s with mode := .inside [] } := by
  obtain ⟨mode, depth, isKey, found⟩ := s
  obtain rfl : mode = .outside := hmode
  cases depth <;> cases hstep
  rfl

/-- A backslash is followed by an escape. -/
theorem step_slash (hmode : s.mode = .inside raw) (hstep : s.step names '\\' = some s') :
    s' = { s with mode := .escaped ('\\' :: raw) } := by
  simpa [step, hmode, eq_comm] using hstep

/-- An escape is a unit, or over with one letter. -/
theorem step_escaped (hmode : s.mode = .escaped raw) (hstep : s.step names c = some s') :
    c = 'u' ∧ s' = { s with mode := .unit 4 (c :: raw) } ∨
      c ≠ 'u' ∧ (escaped? c).isSome = true ∧ s' = { s with mode := .inside (c :: raw) } := by
  simp only [step, hmode] at hstep
  split at hstep
  · rename_i hunit
    exact Or.inl ⟨hunit, (Option.some.inj hstep).symm⟩
  split at hstep
  · rename_i hunit hescaped
    exact Or.inr ⟨hunit, hescaped, (Option.some.inj hstep).symm⟩
  · cases hstep

/-- A unit is followed by its digits. -/
theorem step_unit {left : Nat} (hmode : s.mode = .unit left raw) (hstep : s.step names c = some s') :
    (∃ value, Hex.value? c = some value) ∧
      s' = { s with mode := if left ≤ 1 then .inside (c :: raw) else .unit (left - 1) (c :: raw) } := by
  simp only [step, hmode] at hstep
  split at hstep
  · cases hstep
  · rename_i hdigit
    rw [Option.isNone_iff_eq_none, ← ne_eq, Option.ne_none_iff_exists'] at hdigit
    exact ⟨hdigit, (Option.some.inj hstep).symm⟩

/-- Outside of strings a quote is the only character that leads into one, and a backslash is none. -/
theorem step_outside (hmode : s.mode = .outside) (hstep : s.step names c = some s') :
    c ≠ '\\' ∧ s'.found = s.found ∧ (c = '"' ∧ s'.mode = .inside [] ∨ c ≠ '"' ∧ s'.mode = .outside) := by
  simp only [step, hmode] at hstep
  unfold stepOutside at hstep
  split at hstep
  · rename_i hgap
    cases hstep
    have hc : c ≠ '\\' ∧ c ≠ '"' := by
      rcases isGap_iff.mp hgap with rfl | rfl | rfl | rfl <;> decide
    exact ⟨hc.1, rfl, Or.inr ⟨hc.2, hmode⟩⟩
  split at hstep
  · cases hstep
  rename_i hallowed
  rw [not_or] at hallowed
  refine ⟨hallowed.2, ?_⟩
  split at hstep <;> cases hstep
  · exact ⟨rfl, Or.inl ⟨rfl, rfl⟩⟩
  all_goals first
    | exact ⟨rfl, Or.inr ⟨by decide, hmode⟩⟩
    | exact ⟨rfl, Or.inr ⟨‹_›, hmode⟩⟩

/-- The text between two quotes holds no other quote for a scan that takes it for what is outside. -/
theorem outside_of_run_pieces (hspells : SpellsPieces pieces text) (hmode : s.mode = .outside)
    (hrun : s.run names text = some s') : s'.mode = .outside ∧ s'.found = s.found := by
  induction hspells generalizing s with
  | nil =>
    cases hrun
    exact ⟨hmode, rfl⟩
  | char hquote _ _ _ ih =>
    obtain ⟨next, hstep, hrun⟩ := run_cons_eq_some.mp hrun
    obtain ⟨_, hfound, ⟨rfl, _⟩ | ⟨_, hnext⟩⟩ := step_outside hmode hstep
    · exact absurd rfl hquote
    · rw [← hfound]
      exact ih hnext hrun
  | letter | unit =>
    obtain ⟨next, hstep, _⟩ := run_cons_eq_some.mp hrun
    exact absurd rfl (step_outside hmode hstep).1

/-- A scan that is in a string in front of a text is in one behind it too. -/
def StaysInside (names : List String) (text : List Char) : Prop :=
  ∀ s s' : Scan, s.Inside → s.run names text = some s' → s'.Inside

theorem StaysInside.append {rest : List Char} (htext : StaysInside names text)
    (hrest : StaysInside names rest) : StaysInside names (text ++ rest) := by
  intro s s' hinside hrun
  obtain ⟨between, hfirst, hsecond⟩ := run_append_eq_some.mp hrun
  exact hrest _ _ (htext _ _ hinside hfirst) hsecond

theorem staysInside_of_safe (hsafe : IsSafe text) : StaysInside names text := by
  intro s s' hinside hrun
  induction text generalizing s with
  | nil =>
    cases hrun
    exact hinside
  | cons c text ih =>
    obtain ⟨raw, hmode⟩ := hinside
    obtain ⟨next, hstep, hrun⟩ := run_cons_eq_some.mp hrun
    obtain ⟨hquote, hslash⟩ := hsafe c List.mem_cons_self
    cases step_inside hmode hquote hslash hstep
    exact ih (fun other hother => hsafe other (List.mem_cons_of_mem _ hother)) _ ⟨_, rfl⟩ hrun

/-- A string ends the one that the scan is in and starts another. -/
theorem staysInside_string (hspells : SpellsPieces pieces text) :
    StaysInside names ('"' :: text ++ ['"']) := by
  rintro s s' ⟨raw, hmode⟩ hrun
  rw [List.cons_append] at hrun
  obtain ⟨first, hstep, hrun⟩ := run_cons_eq_some.mp hrun
  cases step_quote hmode hstep
  obtain ⟨second, htext, hrun⟩ := run_append_eq_some.mp hrun
  obtain ⟨third, hstep, hrun⟩ := run_cons_eq_some.mp hrun
  cases hrun
  obtain ⟨_, _, ⟨_, hthird⟩ | ⟨hquote, _⟩⟩ := step_outside (outside_of_run_pieces hspells rfl htext).1 hstep
  · exact ⟨[], hthird⟩
  · exact absurd rfl hquote

theorem staysInside_key {key : Option String} (hkey : SpellsKey key text) : StaysInside names text := by
  obtain @⟨before, text, after, hbefore, hstring, hafter⟩ := hkey
  have hsplit : before ++ '"' :: text ++ '"' :: after ++ [':'] =
      before ++ (('"' :: text ++ ['"']) ++ (after ++ [':'])) := by simp
  obtain ⟨pieces, hpieces, _⟩ := hstring
  rw [hsplit]
  exact .append (staysInside_of_safe hbefore.isSafe) (.append (staysInside_string hpieces)
    (.append (staysInside_of_safe hafter.isSafe) (staysInside_of_safe (by decide))))

theorem staysInside_of_spells {part : Part} (hspells : Spells part text) : StaysInside names text := by
  have hopen (c : Char) (hsafe : c ≠ '"' ∧ c ≠ '\\') : StaysInside names [c] :=
    staysInside_of_safe (List.forall_mem_singleton.mpr hsafe)
  induction hspells with
  | scalar hscalar =>
    cases hscalar with
    | null | true | false => exact staysInside_of_safe (by decide)
    | number hnumber => exact staysInside_of_safe hnumber.arePlain.isSafe
    | string hstring =>
      obtain ⟨pieces, hpieces, _⟩ := hstring
      exact staysInside_string hpieces
  | emptyArray hgap =>
    exact .append (.append (hopen '[' (by decide)) (staysInside_of_safe hgap.isSafe))
      (hopen ']' (by decide))
  | array _ ih => exact .append (.append (hopen '[' (by decide)) ih) (hopen ']' (by decide))
  | emptyObject hgap =>
    exact .append (.append (hopen '\x7b' (by decide)) (staysInside_of_safe hgap.isSafe))
      (hopen '\x7d' (by decide))
  | object _ ih => exact .append (.append (hopen '\x7b' (by decide)) ih) (hopen '\x7d' (by decide))
  | padded hbefore _ hafter ih =>
    exact .append (.append (staysInside_of_safe hbefore.isSafe) ih)
      (staysInside_of_safe hafter.isSafe)
  | item _ ih => exact ih
  | items _ _ ihItem ih => exact .append ihItem (.append (hopen ',' (by decide)) ih)
  | member hkey _ ih => exact .append (staysInside_key hkey) ih
  | members hkey _ _ ihValue ih =>
    exact .append (.append (staysInside_key hkey) ihValue) (.append (hopen ',' (by decide)) ih)

end Flipped

end Scan

end RollupBridge.Json
