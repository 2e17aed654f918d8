import RollupBridge.Proofs.Json.Miss
import RollupBridge.Proofs.Json.Scan

namespace RollupBridge.Json

/-- Names without a bracket, comma or colon, none of which is read as a word. -/
def Unmistakable (names : List String) : Prop :=
  ∀ name ∈ names, IsUnmarked name.toList ∧ (Hex.readFixed? name.toList : Option Word) = none

instance (names : List String) : Decidable (Unmistakable names) := List.decidableBAll _ _

section Named

variable {names : List String} {raw text : List Char} {pieces : List Piece} {c : Char}

theorem escaped?_of_isMark (hc : isMark c = true) : escaped? c = none ∧ c ≠ 'u' ∧ Hex.value? c = none ∧
    c ≠ '"' ∧ c ≠ '\\' ∧ isGap c = false := by
  simp only [isMark, List.mem_cons, List.not_mem_nil, or_false, decide_eq_true_eq] at hc
  rcases hc with rfl | rfl | rfl | rfl | rfl | rfl <;> decide

/-- A mark in a string stands for itself. -/
theorem SpellsPieces.char_mem (hspells : SpellsPieces pieces text) (hmem : c ∈ text)
    (hc : isMark c = true) : Piece.char c ∈ pieces := by
  obtain ⟨hescaped, hunit, hhex, _, hslash, _⟩ := escaped?_of_isMark hc
  induction hspells with
  | nil => cases hmem
  | char _ _ _ _ ih =>
    rcases List.mem_cons.mp hmem with rfl | hmem
    · exact List.mem_cons_self
    · exact List.mem_cons_of_mem _ (ih hmem)
  | @letter e other pieces text hletter _ ih =>
    rcases List.mem_cons.mp hmem with rfl | hmem
    · exact absurd rfl hslash
    rcases List.mem_cons.mp hmem with rfl | hmem
    · cases hletter.symm.trans hescaped
    · exact List.mem_cons_of_mem _ (ih hmem)
  | @unit a b d e value pieces text hvalue _ ih =>
    obtain ⟨_, ha, hvalue⟩ := Option.bind_eq_some_iff.mp hvalue
    obtain ⟨_, hb, hvalue⟩ := Option.bind_eq_some_iff.mp hvalue
    obtain ⟨_, hd, hvalue⟩ := Option.bind_eq_some_iff.mp hvalue
    obtain ⟨_, he, _⟩ := Option.bind_eq_some_iff.mp hvalue
    simp only [List.mem_cons] at hmem
    rcases hmem with rfl | rfl | rfl | rfl | rfl | rfl | hmem
    · exact absurd rfl hslash
    · exact absurd rfl hunit
    · cases ha.symm.trans hhex
    · cases hb.symm.trans hhex
    · cases hd.symm.trans hhex
    · cases he.symm.trans hhex
    · exact List.mem_cons_of_mem _ (ih hmem)

/-- The characters of a string are in what its pieces are joined to. -/
theorem mem_of_joinPieces {seen chars : List Char} (hjoin : joinPieces pieces seen = some chars) :
    (∀ c ∈ seen, c ∈ chars) ∧ ∀ c, Piece.char c ∈ pieces → c ∈ chars := by
  fun_induction joinPieces pieces seen with
  | case1 seen =>
    cases hjoin
    simp
  | case2 c rest seen ih => simp_all
  | case3 high low rest seen _ ih => simp_all
  | case4 => cases hjoin
  | case5 high low rest seen _ _ ih => simp_all
  | case6 => cases hjoin
  | case7 value rest seen _ _ ih => simp_all

theorem spellsString_of_isNamed (hnamed : isNamed names text = true) :
    ∃ name ∈ names, SpellsString (some name) text := by
  unfold isNamed at hnamed
  split at hnamed
  case h_2 => cases hnamed
  rename_i key hread
  obtain ⟨raw, hspells, htext⟩ := readString_eq_some hread
  obtain rfl := List.append_cancel_right htext
  obtain ⟨name, hname, hkey⟩ := List.any_eq_true.mp hnamed
  cases beq_iff_eq.mp hkey
  exact ⟨name, hname, hspells⟩

theorem isNamed_eq_false_of_mark (hnames : Unmistakable names) (hmem : c ∈ text) (hc : isMark c = true) :
    isNamed names text = false := by
  refine eq_false_of_ne_true fun hnamed => ?_
  obtain ⟨name, hname, pieces, hpieces, hjoin⟩ := spellsString_of_isNamed hnamed
  obtain ⟨chars, hchars, rfl⟩ := Option.map_eq_some_iff.mp hjoin.symm
  have hmem := (mem_of_joinPieces hchars).2 c (hpieces.char_mem hmem hc)
  rw [← String.toList_ofList (l := chars)] at hmem
  rw [(hnames _ hname).1 c hmem] at hc
  cases hc

end Named

namespace Scan

variable {names : List String} {s s' e : Scan} {c : Char} {raw gap text rest : List Char}

section Step

/-- Only a quote that ends a key among the names is counted. -/
theorem found_of_step (hstep : s.step names c = some s')
    (hno : ∀ raw, s.mode = .inside raw → c = '"' → (s.isKey && isNamed names raw.reverse) = false) :
    s'.found = s.found := by
  cases hmode : s.mode with
  | outside => exact (step_outside hmode hstep).2.1
  | inside raw =>
    by_cases hquote : c = '"'
    · subst c
      rw [step_quote hmode hstep, hno raw hmode rfl]
      rfl
    simp only [step, hmode, if_neg hquote] at hstep
    split at hstep
    · cases hstep
      rfl
    split at hstep <;> cases hstep
    rfl
  | escaped raw =>
    simp only [step, hmode] at hstep
    split at hstep
    · cases hstep
      rfl
    split at hstep <;> cases hstep
    rfl
  | unit left raw =>
    simp only [step, hmode] at hstep
    split at hstep <;> cases hstep
    rfl

theorem found_of_step_of_ne (hquote : c ≠ '"') (hstep : s.step names c = some s') : s'.found = s.found :=
  found_of_step hstep fun _ _ hc => absurd hc hquote

theorem found_of_run (hsafe : IsSafe text) (hrun : s.run names text = some s') :
    s'.found = s.found := by
  induction text generalizing s with
  | nil =>
    cases hrun
    rfl
  | cons c text ih =>
    obtain ⟨next, hstep, hrun⟩ := run_cons_eq_some.mp hrun
    rw [ih (fun other hother => hsafe other (List.mem_cons_of_mem _ hother)) hrun,
      found_of_step_of_ne (hsafe c List.mem_cons_self).1 hstep]

/-- The scan is in a string that spells none of the names, however it goes on. -/
def Spoiled (s : Scan) : Prop := ∃ raw c, s.mode = .inside raw ∧ c ∈ raw ∧ isMark c = true

/-- The scan is in no string that may spell a name. -/
def Clear (s : Scan) : Prop := s.mode = .outside ∨ s.Spoiled

/-- The scan is in no string that may spell a name, and where no key of the object stands. -/
def Deep (s : Scan) : Prop := s.mode = .outside ∧ s.isKey = false ∧ 2 ≤ s.depth ∨ s.Spoiled

theorem Deep.clear (hdeep : s.Deep) : s.Clear := hdeep.imp_left And.left

theorem found_of_step_of_clear (hnames : Unmistakable names) (hclear : s.Clear)
    (hstep : s.step names c = some s') : s'.found = s.found := by
  refine found_of_step hstep fun raw hmode _ => ?_
  obtain houtside | ⟨raw', mark, hinside, hmem, hmark⟩ := hclear
  · cases hmode.symm.trans houtside
  · cases hmode.symm.trans hinside
    rw [isNamed_eq_false_of_mark hnames (List.mem_reverse.mpr hmem) hmark, Bool.and_false]

theorem Spoiled.step (hspoiled : s.Spoiled) (hquote : c ≠ '"') (hslash : c ≠ '\\')
    (hstep : s.step names c = some s') : s'.Spoiled := by
  obtain ⟨raw, mark, hmode, hmem, hmark⟩ := hspoiled
  rw [step_inside hmode hquote hslash hstep]
  exact ⟨_, mark, rfl, List.mem_cons_of_mem _ hmem, hmark⟩

theorem Clear.step (hclear : s.Clear) (hquote : c ≠ '"') (hslash : c ≠ '\\')
    (hstep : s.step names c = some s') : s'.Clear := by
  rcases hclear with houtside | hspoiled
  · obtain ⟨_, _, ⟨hc, _⟩ | ⟨_, hmode⟩⟩ := step_outside houtside hstep
    · exact absurd hc hquote
    · exact Or.inl hmode
  · exact Or.inr (hspoiled.step hquote hslash hstep)

theorem Clear.run (hclear : s.Clear) (hsafe : IsSafe text)
    (hrun : s.run names text = some s') : s'.Clear := by
  induction text generalizing s with
  | nil =>
    cases hrun
    exact hclear
  | cons c text ih =>
    obtain ⟨next, hstep, hrun⟩ := run_cons_eq_some.mp hrun
    obtain ⟨hquote, hslash⟩ := hsafe c List.mem_cons_self
    exact ih (hclear.step hquote hslash hstep)
      (fun other hother => hsafe other (List.mem_cons_of_mem _ hother)) hrun

/-- Behind a mark no string that the scan is in spells a name. -/
theorem clear_of_mark (hmark : isMark c = true) (hstep : s.step names c = some s') : s'.Clear := by
  obtain ⟨hescaped, hunit, hhex, hquote, hslash, _⟩ := escaped?_of_isMark hmark
  cases hmode : s.mode with
  | outside => exact Clear.step (Or.inl hmode) hquote hslash hstep
  | inside raw =>
    rw [step_inside hmode hquote hslash hstep]
    exact Or.inr ⟨_, c, rfl, List.mem_cons_self, hmark⟩
  | escaped raw => simp [Scan.step, hmode, hunit, hescaped] at hstep
  | unit left raw => simp [Scan.step, hmode, hhex] at hstep

/-- Behind a gap and a mark the scan is clear, wherever it was. -/
theorem exists_run_mark (hgap : IsGap gap) (hmark : isMark c = true)
    (hrun : s.run names (gap ++ c :: rest) = some e) :
    ∃ s' : Scan, s'.Clear ∧ s'.found = s.found ∧ s'.run names rest = some e := by
  obtain ⟨before, hgapRun, hrun⟩ := run_append_eq_some.mp hrun
  obtain ⟨s', hstep, hrun⟩ := run_cons_eq_some.mp hrun
  refine ⟨s', clear_of_mark hmark hstep, ?_, hrun⟩
  rw [found_of_step_of_ne (escaped?_of_isMark hmark).2.2.2.1 hstep,
    found_of_run hgap.isSafe hgapRun]

end Step

section Miss

variable {fuel : Nat} {behind : List Char}

theorem found_of_skips (hnames : Unmistakable names) (hclear : s.Clear) (hskips : Skips text rest)
    (hrun : s.run names text = some e) :
    ∃ s' : Scan, s'.found = s.found ∧ s'.run names rest = some e := by
  obtain ⟨safe, last, rfl, hsafe, hlast⟩ := hskips
  rw [List.append_assoc] at hrun
  obtain ⟨s', hsafeRun, hrun⟩ := run_append_eq_some.mp hrun
  have hfound := found_of_run hsafe hsafeRun
  cases last with
  | nil => exact ⟨s', hfound, hrun⟩
  | cons c more =>
    obtain rfl : more = [] := List.length_eq_zero_iff.mp (Nat.le_zero.mp (Nat.le_of_succ_le_succ hlast))
    obtain ⟨s'', hstep, hrun⟩ := run_cons_eq_some.mp hrun
    refine ⟨s'', ?_, hrun⟩
    rw [found_of_step_of_clear hnames (hclear.run hsafe hsafeRun) hstep, hfound]

/-- Where the scan is outside of strings, a string that is passed over ends at the next quote or control
character, and a backslash is none. -/
theorem found_of_behindString_outside (hmode : s.mode = .outside)
    (hbehind : behindString fuel text = some rest) (hrun : s.run names text = some e) :
    ∃ s' : Scan, s'.found = s.found ∧ s'.run names rest = some e := by
  fun_induction behindString fuel text generalizing s with
  | case1 => cases hbehind
  | case2 => cases hbehind
  | case3 =>
    cases hbehind
    obtain ⟨s', hstep, hrun⟩ := run_cons_eq_some.mp hrun
    exact ⟨s', (step_outside hmode hstep).2.1, hrun⟩
  | case4 | case5 | case6 =>
    obtain ⟨s', hstep, _⟩ := run_cons_eq_some.mp hrun
    exact absurd rfl (step_outside hmode hstep).1
  | case7 =>
    cases hbehind
    obtain ⟨s', hstep, hrun⟩ := run_cons_eq_some.mp hrun
    exact ⟨s', (step_outside hmode hstep).2.1, hrun⟩
  | case8 _ c _ hquote _ _ _ ih =>
    obtain ⟨s', hstep, hrun⟩ := run_cons_eq_some.mp hrun
    obtain ⟨_, hfound, ⟨hc, _⟩ | ⟨_, hmode⟩⟩ := step_outside hmode hstep
    · exact absurd hc hquote
    · rw [← hfound]
      exact ih hmode hbehind hrun

theorem found_of_step_of_isKey (hkey : s.isKey = false) (hstep : s.step names c = some s') :
    s'.found = s.found :=
  found_of_step hstep fun _ _ _ => by rw [hkey, Bool.false_and]

theorem utf8Size_of_value? {value : Nat} (hvalue : Hex.value? c = some value) : c.utf8Size = 1 := by
  have hascii : c ≤ 'f' := by
    unfold Hex.value? at hvalue
    split at hvalue
    · rename_i hc
      exact Char.le_trans hc.2 (by decide)
    split at hvalue
    · rename_i hc
      exact hc.2
    split at hvalue
    · rename_i hc
      exact Char.le_trans hc.2 (by decide)
    · cases hvalue
  rw [Char.utf8Size_eq_one_iff]
  exact UInt32.le_trans hascii (by decide)

/-- The second scan is in a string, and counts as much as the first. -/
structure Within (s s' : Scan) : Prop where
  inside : s'.Inside
  isKey_eq : s'.isKey = s.isKey
  found_eq : s'.found = s.found

theorem within_of_step (hinside : s.Inside) (hquote : c ≠ '"') (hslash : c ≠ '\\')
    (hstep : s.step names c = some s') : Within s s' := by
  obtain ⟨raw, hmode⟩ := hinside
  obtain rfl := step_inside hmode hquote hslash hstep
  exact ⟨⟨_, rfl⟩, rfl, rfl⟩

/-- Behind an escape of one letter the scan is in the string again. -/
theorem exists_run_letter (hinside : s.Inside) (hunit : c ≠ 'u')
    (hrun : s.run names ('\\' :: c :: text) = some e) :
    (escaped? c).isSome = true ∧ ∃ s', Within s s' ∧ s'.run names text = some e := by
  obtain ⟨raw, hmode⟩ := hinside
  obtain ⟨first, hslash, hrun⟩ := run_cons_eq_some.mp hrun
  obtain ⟨second, hletter, hrun⟩ := run_cons_eq_some.mp hrun
  obtain rfl := step_slash hmode hslash
  obtain ⟨hc, _⟩ | ⟨_, hescaped, rfl⟩ := step_escaped rfl hletter
  · exact absurd hc hunit
  · refine ⟨hescaped, _, ?_, hrun⟩
    exact ⟨⟨_, rfl⟩, rfl, rfl⟩

/-- Behind the digits of a unit the scan is in the string again. -/
theorem exists_run_digits {left : Nat} (hmode : s.mode = .unit (left + 1) raw)
    (hdrop : Text.dropBytes? (left + 1) text = some behind) (hrun : s.run names text = some e) :
    ∃ s', Within s s' ∧ s'.run names behind = some e := by
  induction left generalizing s raw text with
  | zero =>
    cases text with
    | nil => cases hdrop
    | cons c text =>
      obtain ⟨next, hstep, hrun⟩ := run_cons_eq_some.mp hrun
      obtain ⟨⟨value, hvalue⟩, rfl⟩ := step_unit hmode hstep
      simp [Text.dropBytes?, utf8Size_of_value? hvalue] at hdrop
      subst hdrop
      refine ⟨_, ?_, hrun⟩
      exact ⟨⟨_, rfl⟩, rfl, rfl⟩
  | succ left ih =>
    cases text with
    | nil => cases hdrop
    | cons c text =>
      obtain ⟨next, hstep, hrun⟩ := run_cons_eq_some.mp hrun
      obtain ⟨⟨value, hvalue⟩, hnext⟩ := step_unit hmode hstep
      have hdrop : Text.dropBytes? (left + 1) text = some behind := by
        simpa [Text.dropBytes?, utf8Size_of_value? hvalue] using hdrop
      rw [if_neg (by omega)] at hnext
      obtain ⟨s', ⟨hinside, hkey, hfound⟩, hrun⟩ := ih (by rw [hnext]; rfl) hdrop hrun
      refine ⟨s', ⟨hinside, ?_, ?_⟩, hrun⟩
      · rw [hkey, hnext]
      · rw [hfound, hnext]

/-- Behind the escape of a unit the scan is in the string again. -/
theorem exists_run_unit (hinside : s.Inside) (hdrop : Text.dropBytes? 4 text = some behind)
    (hrun : s.run names ('\\' :: 'u' :: text) = some e) :
    ∃ s', Within s s' ∧ s'.run names behind = some e := by
  obtain ⟨raw, hmode⟩ := hinside
  obtain ⟨first, hslash, hrun⟩ := run_cons_eq_some.mp hrun
  obtain ⟨second, hunit, hrun⟩ := run_cons_eq_some.mp hrun
  obtain rfl := step_slash hmode hslash
  obtain ⟨_, rfl⟩ | ⟨hunit, _⟩ := step_escaped rfl hunit
  · obtain ⟨s', ⟨hinside, hkey, hfound⟩, hrun⟩ := exists_run_digits rfl hdrop hrun
    exact ⟨s', ⟨hinside, hkey, hfound⟩, hrun⟩
  · exact absurd rfl hunit

theorem eq_of_behindOne (hbehind : behindOne c text = some rest) : rest = text := by
  rw [behindOne] at hbehind
  split at hbehind <;> cases hbehind
  rfl

/-- Where the scan is in the string that is passed over, they keep in step, and no key ends there. -/
theorem found_of_behindString_inside (hinside : s.Inside) (hkey : s.isKey = false)
    (hbehind : behindString fuel text = some rest) (hrun : s.run names text = some e) :
    ∃ s' : Scan, s'.found = s.found ∧ s'.run names rest = some e := by
  fun_induction behindString fuel text generalizing s with
  | case1 => cases hbehind
  | case2 => cases hbehind
  | case3 =>
    cases hbehind
    obtain ⟨s', hstep, hrun⟩ := run_cons_eq_some.mp hrun
    exact ⟨s', found_of_step_of_isKey hkey hstep, hrun⟩
  | case4 fuel text ih =>
    obtain ⟨behind, hdrop, hbehind⟩ := Option.bind_eq_some_iff.mp hbehind
    obtain ⟨next, hnext, hrun⟩ := exists_run_unit hinside hdrop hrun
    have hnextKey := hnext.isKey_eq.trans hkey
    rw [← hnext.found_eq]
    split at hbehind
    · cases hbehind
      exact ⟨next, rfl, hrun⟩
    split at hbehind
    · cases hbehind
      exact ⟨next, rfl, hrun⟩
    split at hbehind
    -- The first half of a pair: the other half may follow, or something else that is taken in part.
    · split at hbehind
      · obtain ⟨behind, hdrop, hbehind⟩ := Option.bind_eq_some_iff.mp hbehind
        obtain ⟨last, hlast, hrun⟩ := exists_run_unit hnext.inside hdrop hrun
        rw [← hlast.found_eq]
        split at hbehind
        · exact ih behind hlast.inside (hlast.isKey_eq.trans hnextKey) hbehind hrun
        · cases hbehind
          exact ⟨last, rfl, hrun⟩
      · rename_i hunit
        obtain rfl := eq_of_behindOne hbehind
        obtain ⟨_, last, hlast, hrun⟩ := exists_run_letter hnext.inside hunit hrun
        exact ⟨last, hlast.found_eq, hrun⟩
      · obtain rfl := eq_of_behindOne hbehind
        obtain ⟨last, hstep, hrun⟩ := run_cons_eq_some.mp hrun
        exact ⟨last, found_of_step_of_isKey hnextKey hstep, hrun⟩
      · cases hbehind
    · exact ih behind hnext.inside hnextKey hbehind hrun
  | case5 fuel letter text hunit _ ih =>
    obtain ⟨_, next, hnext, hrun⟩ := exists_run_letter hinside hunit hrun
    rw [← hnext.found_eq]
    exact ih hnext.inside (hnext.isKey_eq.trans hkey) hbehind hrun
  | case6 fuel letter text hunit hescaped =>
    exact absurd (exists_run_letter hinside hunit hrun).1 hescaped
  | case7 =>
    cases hbehind
    obtain ⟨s', hstep, hrun⟩ := run_cons_eq_some.mp hrun
    exact ⟨s', found_of_step_of_isKey hkey hstep, hrun⟩
  | case8 fuel c text hquote _ hescape _ ih =>
    by_cases hslash : c = '\\'
    · cases text with
      | nil => cases fuel <;> cases hbehind
      | cons d text => exact absurd rfl (hescape d text hslash)
    · obtain ⟨next, hstep, hrun⟩ := run_cons_eq_some.mp hrun
      have hnext := within_of_step hinside hquote hslash hstep
      rw [← hnext.found_eq]
      exact ih hnext.inside (hnext.isKey_eq.trans hkey) hbehind hrun

/-- Neither what is plain nor a comma leads out of the array of a word. -/
theorem Deep.step (hdeep : s.Deep) (hc : isPlain c = true ∨ c = ',') (hstep : s.step names c = some s') :
    s'.Deep := by
  have hsafe : c ≠ '"' ∧ c ≠ '\\' := by
    constructor <;> rintro rfl <;> rcases hc with hc | hc <;> cases hc
  rcases hdeep with ⟨hmode, hkey, hdepth⟩ | hspoiled
  · obtain ⟨mode, depth, isKey, found⟩ := s
    obtain rfl : mode = .outside := hmode
    obtain rfl : isKey = false := hkey
    obtain ⟨depth, rfl⟩ := Nat.exists_eq_add_of_le' hdepth
    refine Or.inl ?_
    rcases hc with hplain | rfl
    · obtain rfl := Option.some.inj ((step_plain hplain).symm.trans hstep)
      exact ⟨rfl, rfl, hdepth⟩
    · cases hstep
      exact ⟨rfl, by simp, hdepth⟩
  · exact Or.inr (hspoiled.step hsafe.1 hsafe.2 hstep)

theorem Deep.run (hdeep : s.Deep) (hplain : ArePlain text)
    (hrun : s.run names text = some s') : s'.Deep := by
  induction text generalizing s with
  | nil =>
    cases hrun
    exact hdeep
  | cons c text ih =>
    obtain ⟨next, hstep, hrun⟩ := run_cons_eq_some.mp hrun
    exact ih (hdeep.step (Or.inl (hplain c List.mem_cons_self)) hstep)
      (fun other hother => hplain other (List.mem_cons_of_mem _ hother)) hrun

/-- The array of a word starts with a bracket. -/
theorem Clear.open (hclear : s.Clear) (hstep : s.step names '[' = some s') : s'.Deep := by
  rcases hclear with hmode | hspoiled
  · obtain ⟨mode, depth, isKey, found⟩ := s
    obtain rfl : mode = .outside := hmode
    cases depth with
    | zero => cases hstep
    | succ depth =>
      cases hstep
      exact Or.inl ⟨rfl, rfl, by simp⟩
  · exact Or.inr (hspoiled.step (by decide) (by decide) hstep)

/-- A search for a byte that fails in the array of a word passes over no key. What the search leaves
need not be what the grammar says: a quote that ends a string may be taken for one that starts a
string. But what a scan has of a string that is cut in two holds a bracket, and what is passed over
behind the last byte holds no whole string where a key stands. -/
theorem found_of_missByte? (hnames : Unmistakable names) (hdeep : s.Deep)
    (hmiss : missByte? text = some rest) (hrun : s.run names text = some e) :
    ∃ s' : Scan, s'.found = s.found ∧ s'.run names rest = some e := by
  obtain hskips | ⟨body, rfl, hbehind⟩ := skips_of_missByte? hmiss
  · exact found_of_skips hnames hdeep.clear hskips hrun
  obtain ⟨next, hstep, hrun⟩ := run_cons_eq_some.mp hrun
  have hfound := found_of_step_of_clear hnames hdeep.clear hstep
  rw [← hfound]
  rcases hdeep with ⟨hmode, hkey, _⟩ | ⟨raw, _, hmode, _⟩
  · have hnext := step_open hmode hstep
    exact found_of_behindString_inside ⟨[], by rw [hnext]⟩ (by rw [hnext]; exact hkey) hbehind hrun
  · exact found_of_behindString_outside (by rw [step_quote hmode hstep]) hbehind hrun

theorem run_closeBytes? (hnames : Unmistakable names) (hdeep : s.Deep)
    (hclose : closeBytes? text = some rest) (hrun : s.run names text = some e) :
    ∃ s' : Scan, s'.Clear ∧ s'.found = s.found ∧ s'.run names rest = some e := by
  have hbracket {s : Scan} {text : List Char} (hskip : skipGap text = ']' :: rest)
      (hrun : s.run names text = some e) :
      ∃ s' : Scan, s'.Clear ∧ s'.found = s.found ∧ s'.run names rest = some e := by
    obtain ⟨gap, hgap, htext⟩ := exists_gap text
    rw [htext, hskip] at hrun
    exact exists_run_mark hgap rfl hrun
  obtain hskip | ⟨behind, hmiss, hskip⟩ := closeBytes?_eq_some hclose
  · exact hbracket hskip hrun
  · obtain ⟨gap, hgap, htext⟩ := exists_gap text
    rw [htext] at hrun
    obtain ⟨next, hgapRun, hrun⟩ := run_append_eq_some.mp hrun
    have hdeep := hdeep.run hgap.arePlain hgapRun
    obtain ⟨last, hlast, hrun⟩ := found_of_missByte? hnames hdeep hmiss hrun
    obtain ⟨s', hclear, hfound, hrun⟩ := hbracket hskip hrun
    refine ⟨s', hclear, ?_, hrun⟩
    rw [hfound, hlast, found_of_run hgap.isSafe hgapRun]

end Miss

end Scan

end RollupBridge.Json
