import RollupBridge.Proofs.Json.Record
import RollupBridge.Proofs.Json.Search

namespace RollupBridge.Json

namespace Scan

variable {names : List String} {s s' e : Scan} {c : Char} {raw gap text rest : List Char}

section Words

variable {fuel : Nat} {item : Json}

/-- A byte is plain. -/
theorem run_byte (hdeep : s.Deep) (hbyte : item.byte? ≠ none)
    (hread : readValue fuel .any text = some (item, rest)) (hrun : s.run names text = some e) :
    ∃ s' : Scan, s'.Deep ∧ s'.found = s.found ∧ s'.run names rest = some e := by
  obtain ⟨gap, literal, hgap, hspells, rfl⟩ := (ReadsSpelled.all fuel).value hread
  have hplain : ArePlain (gap ++ literal) := by
    refine List.forall_mem_append.mpr ⟨hgap.arePlain, ?_⟩
    cases hspells with
    | scalar hscalar =>
      cases hscalar with
      | number hnumber => exact hnumber.arePlain
      | _ => exact absurd rfl hbyte
    | _ => exact absurd rfl hbyte
  obtain ⟨s', hbyteRun, hrun⟩ := run_append_eq_some.mp hrun
  exact ⟨s', hdeep.run hplain hbyteRun, found_of_run hplain.isSafe hbyteRun, hrun⟩

/-- Behind a gap and a comma the scan is still in the array of a word. -/
theorem exists_run_comma (hdeep : s.Deep) (hgap : IsGap gap)
    (hrun : s.run names (gap ++ ',' :: rest) = some e) :
    ∃ s' : Scan, s'.Deep ∧ s'.found = s.found ∧ s'.run names rest = some e := by
  obtain ⟨before, hgapRun, hrun⟩ := run_append_eq_some.mp hrun
  obtain ⟨s', hstep, hrun⟩ := run_cons_eq_some.mp hrun
  refine ⟨s', (hdeep.run hgap.arePlain hgapRun).step (Or.inr rfl) hstep, ?_, hrun⟩
  rw [found_of_step_of_ne (by decide) hstep, found_of_run hgap.isSafe hgapRun]

/-- The bytes of a word end at a bracket, and the scan counts nothing up to there. -/
theorem run_bytes (hnames : Unmistakable names) {width : Nat} {seen items : List Json}
    (hdeep : s.Deep) (hbytes : ∀ item ∈ items, item.byte? ≠ none)
    (hread : readItems fuel (.bytes width) text seen = some (.array items, rest))
    (hrun : s.run names text = some e) :
    ∃ s' : Scan, s'.Clear ∧ s'.found = s.found ∧ s'.run names rest = some e := by
  induction fuel generalizing s text seen with
  | zero =>
    rw [readItems] at hread
    cases hread
  | succ fuel ih =>
    cases readItems_eq_some_iff.mp hread with
    | last hgap hitem hresult =>
      obtain rfl := Json.array.inj hresult
      obtain ⟨next, _, hfound, hrun⟩ := run_byte hdeep (hbytes _ (by simp)) hitem hrun
      rw [← hfound]
      exact exists_run_mark hgap rfl hrun
    | @more item gap next hgap hitem _ hmore =>
      obtain ⟨more, hitems⟩ := exists_of_readItems hmore
      have hbyte : item.byte? ≠ none := hbytes item (by simp [Json.array.inj hitems])
      obtain ⟨first, hfirst, hfound, hrun⟩ := run_byte hdeep hbyte hitem hrun
      obtain ⟨second, hsecond, hfound', hrun⟩ := exists_run_comma hfirst hgap hrun
      rw [← hfound, ← hfound']
      exact ih hsecond hmore hrun
    | @loose item gap next hgap hitem _ hclose hresult =>
      obtain rfl := Json.array.inj hresult
      obtain ⟨first, hfirst, hfound, hrun⟩ := run_byte hdeep (hbytes _ (by simp)) hitem hrun
      obtain ⟨second, hsecond, hfound', hrun⟩ := exists_run_comma hfirst hgap hrun
      rw [← hfound, ← hfound']
      exact run_closeBytes? hnames hsecond hclose hrun

/-- A word that is spelled in quotes is none of the names. -/
theorem run_wordText (hnames : Unmistakable names) (hclear : s.Clear) {str : String} {word : Word}
    (hstring : SpellsString (some str) text) (hword : Hex.readFixed? str.toList = some word)
    (hrun : s.run names ('"' :: text ++ ['"']) = some e) : e.found = s.found := by
  have hnamed : isNamed names text = false := by
    refine eq_false_of_ne_true fun hnamed => ?_
    rw [isNamed_of_spells hstring] at hnamed
    obtain ⟨name, hname, hkey⟩ := List.any_eq_true.mp hnamed
    cases beq_iff_eq.mp hkey
    cases (hnames _ hname).2.symm.trans hword
  obtain ⟨pieces, hpieces, _⟩ := hstring
  rcases hclear with hmode | hspoiled
  · obtain ⟨mode, depth, isKey, found⟩ := s
    obtain rfl : mode = .outside := hmode
    cases depth with
    | zero => cases hrun
    | succ depth =>
      rw [run_string hpieces, hnamed, Bool.and_false] at hrun
      cases hrun
      rfl
  -- The quotes are taken for their opposites, and what is between them for what is outside.
  · rw [List.cons_append] at hrun
    obtain ⟨first, hfirst, hrun⟩ := run_cons_eq_some.mp hrun
    obtain ⟨second, htext, hrun⟩ := run_append_eq_some.mp hrun
    obtain ⟨third, hthird, hrun⟩ := run_cons_eq_some.mp hrun
    cases hrun
    have hmode : first.mode = .outside := by
      obtain ⟨raw, _, hmode, _⟩ := hspoiled
      rw [step_quote hmode hfirst]
    obtain ⟨houtside, hfound⟩ := outside_of_run_pieces hpieces hmode htext
    rw [(step_outside houtside hthird).2.1, hfound, found_of_step_of_clear hnames (Or.inr hspoiled) hfirst]

/-- The scan counts nothing in a word. -/
theorem run_word (hnames : Unmistakable names) (hclear : s.Clear) {word : Word}
    (hword : item.fixed? = some word) (hread : readValue fuel (.bytes 32) text = some (item, rest))
    (hrun : s.run names text = some e) :
    ∃ s' : Scan, s'.found = s.found ∧ s'.run names rest = some e := by
  obtain ⟨fuel, gap, behind, rfl, hgap, rfl, hstep⟩ := valueStep_of_readValue hread
  obtain ⟨next, hgapRun, hrun⟩ := run_append_eq_some.mp hrun
  have hnext := hclear.run hgap.isSafe hgapRun
  rw [← found_of_run hgap.isSafe hgapRun]
  cases hstep with
  | scalar hscalar =>
    obtain ⟨s', hscalarRun, hrest⟩ := run_append_eq_some.mp hrun
    cases hscalar with
    | @string str _ hstring =>
      cases str with
      | none => cases hword
      | some str => exact ⟨s', run_wordText hnames hnext hstring hword hscalarRun, hrest⟩
    | _ => cases hword
  | emptyArray => cases hword
  | array hitems =>
    obtain ⟨items, rfl⟩ := exists_of_readItems hitems
    obtain ⟨bytes, hbytes, _⟩ := Option.bind_eq_some_iff.mp hword
    obtain ⟨inner, hstep, hinner⟩ := run_cons_eq_some.mp hrun
    have hbyte : ∀ item ∈ [].reverse ++ items, item.byte? ≠ none := by
      intro item hitem
      obtain ⟨byte, hbyte⟩ := exists_of_mapM hbytes hitem
      exact Option.ne_none_iff_exists'.mpr ⟨byte, hbyte⟩
    obtain ⟨s', _, hfound, hrest⟩ := run_bytes hnames (hnext.open hstep) hbyte hitems hinner
    exact ⟨s', hfound.trans (found_of_step_of_ne (by decide) hstep), hrest⟩
  | emptyObject => cases hword
  | object hmembers =>
    obtain ⟨members, rfl, _⟩ := (ReadsSpelled.all fuel).members hmembers
    cases hword

/-- The words of an array end at a bracket, and the scan counts nothing up to there. -/
theorem run_words (hnames : Unmistakable names) {seen items : List Json} (hclear : s.Clear)
    (hwords : ∀ item ∈ items, ∃ word : Word, item.fixed? = some word)
    (hread : readItems fuel (.list (.bytes 32)) text seen = some (.array items, rest))
    (hrun : s.run names text = some e) :
    ∃ s' : Scan, s'.Clear ∧ s'.found = s.found ∧ s'.run names rest = some e := by
  induction fuel generalizing s text seen with
  | zero =>
    rw [readItems] at hread
    cases hread
  | succ fuel ih =>
    cases readItems_eq_some_iff.mp hread with
    | last hgap hitem hresult =>
      obtain rfl := Json.array.inj hresult
      obtain ⟨word, hword⟩ := hwords _ (List.mem_append_right _ (List.mem_singleton.mpr rfl))
      obtain ⟨next, hfound, hrun⟩ := run_word hnames hclear hword hitem hrun
      rw [← hfound]
      exact exists_run_mark hgap rfl hrun
    | @more item gap next hgap hitem _ hmore =>
      obtain ⟨more, hitems⟩ := exists_of_readItems hmore
      obtain ⟨word, hword⟩ := hwords item (by simp [Json.array.inj hitems])
      obtain ⟨first, hfound, hrun⟩ := run_word hnames hclear hword hitem hrun
      obtain ⟨second, hsecond, hfound', hrun⟩ := exists_run_mark hgap (by rfl) hrun
      rw [← hfound, ← hfound']
      exact ih hsecond hmore hrun
    | loose _ _ hfull => cases hfull

/-- The scan counts nothing in an array of words, and is clear behind it. -/
theorem run_list (hnames : Unmistakable names) {words : List Word}
    (hwords : item.list? Json.fixed? = some words)
    (hread : readValue fuel (.list (.bytes 32)) text = some (item, rest))
    (hrun : s.run names text = some e) :
    ∃ s' : Scan, s'.Clear ∧ s'.found = s.found ∧ s'.run names rest = some e := by
  obtain ⟨fuel, gap, behind, rfl, hgap, rfl, hstep⟩ := valueStep_of_readValue hread
  cases hstep with
  | scalar hscalar => cases hscalar <;> cases hwords
  | emptyArray hinner =>
    obtain ⟨inner, _, hfound, hrun⟩ := exists_run_mark hgap rfl hrun
    rw [← hfound]
    exact exists_run_mark hinner rfl hrun
  | array hitems =>
    obtain ⟨items, rfl⟩ := exists_of_readItems hitems
    obtain ⟨inner, hinner, hfound, hrun⟩ := exists_run_mark hgap rfl hrun
    rw [← hfound]
    exact run_words hnames hinner (fun _ hitem => exists_of_mapM hwords hitem) hitems hrun
  | emptyObject => cases hwords
  | object hmembers =>
    obtain ⟨members, rfl, _⟩ := (ReadsSpelled.all fuel).members hmembers
    cases hwords

end Words

section Members

variable {fuel found : Nat} {outline : Outline} {key : Option String} {value : Json}
  {before after seen : List (Option String × Json)}

/-- Behind a value the other members are scanned as they are spelled. If the scan is in a string there, it
stays in one until the end; if it is nested too deep, it is so at the end. -/
theorem found_of_run_members (hclear : s.Clear) (hgap : IsGap gap)
    (hspells : Spells (.members after) text) (hrest : IsGap rest)
    (hrun : s.run names (gap ++ ',' :: (text ++ '\x7d' :: rest)) = some e) (hmode : e.mode = .outside)
    (hdepth : e.depth = 0) : e.found = s.found + occurrences names after := by
  rcases hclear with houtside | ⟨raw, _, hinside, _⟩
  · obtain ⟨mode, depth, isKey, found⟩ := s
    obtain rfl : mode = .outside := houtside
    rw [run_append, run_gap hgap, Option.bind_some] at hrun
    obtain ⟨next, hstep, hrun⟩ := run_cons_eq_some.mp hrun
    match depth with
    | 0 => cases hstep
    | 1 =>
      cases hstep
      obtain ⟨last, hlast, hrun⟩ := run_append_eq_some.mp hrun
      cases (run_members hspells).symm.trans hlast
      cases (run_gap hrest).symm.trans hrun
      rfl
    | depth + 2 =>
      cases hstep
      obtain ⟨last, hlast, hrun⟩ := run_append_eq_some.mp hrun
      cases (passes_of_spells hspells depth found).symm.trans hlast
      cases (run_gap hrest).symm.trans hrun
      cases hdepth
  · have hstays : StaysInside names (gap ++ ([','] ++ (text ++ (['\x7d'] ++ rest)))) :=
      .append (staysInside_of_safe hgap.isSafe) (.append (staysInside_of_safe (by decide))
        (.append (staysInside_of_spells hspells) (.append (staysInside_of_safe (by decide))
          (staysInside_of_safe hrest.isSafe))))
    obtain ⟨raw', hmode'⟩ := hstays s e ⟨raw, hinside⟩ hrun
    cases hmode.symm.trans hmode'

/-- From the member on that is an array of words, the keys of an object are those that its text has for a
scan. -/
theorem found_of_readPath (hnames : Unmistakable names) {words : List Word}
    (hkey : outline.member key = .list (.bytes 32)) (hwords : value.list? Json.fixed? = some words)
    (hafter : ∀ member ∈ after, outline.member member.1 = .any)
    (hread : readMembers fuel outline text seen =
      some (.object (seen.reverse ++ (key, value) :: after), rest))
    (hrest : IsGap rest) (hrun : run names ⟨.outside, 1, true, found⟩ text = some e)
    (hmode : e.mode = .outside) (hdepth : e.depth = 0) :
    e.found = found + occurrences names ((key, value) :: after) := by
  obtain ⟨fuel, rfl, hstep⟩ := membersStep_of_readMembers hread
  cases hstep with
  | last hkeyText htext hgap hvalue hresult =>
    cases List.append_cancel_left (Json.object.inj hresult)
    rw [htext, run_append, run_key hkeyText, Option.bind_some] at hrun
    rw [hkey] at hvalue
    obtain ⟨behind, _, hfound, hrun⟩ := run_list hnames hwords hvalue hrun
    have hsafe : IsSafe (_ ++ '\x7d' :: rest) := List.forall_mem_append.mpr
      ⟨hgap.isSafe, List.forall_mem_cons.mpr ⟨by decide, hrest.isSafe⟩⟩
    rw [found_of_run hsafe hrun, hfound, occurrences_cons]
    rfl
  | more hkeyText htext hgap hvalue hmore =>
    obtain ⟨members, hresult, hspelled⟩ := (ReadsSpelled.all fuel).members hmore
    rw [List.reverse_cons, List.append_assoc] at hresult
    cases List.append_cancel_left (Json.object.inj hresult)
    obtain ⟨more, hspells, rfl⟩ := hspelled hafter
    rw [htext, run_append, run_key hkeyText, Option.bind_some] at hrun
    rw [hkey] at hvalue
    obtain ⟨behind, hclear, hfound, hrun⟩ := run_list hnames hwords hvalue hrun
    rw [found_of_run_members hclear hgap hspells hrest hrun hmode hdepth, hfound, occurrences_cons,
      Bool.true_and, Nat.add_assoc]
    rfl

/-- The keys of an object are those that its text has for a scan, where one member is an array of words
and nothing is expected of the others. -/
theorem found_of_readMembers (hnames : Unmistakable names) {words : List Word}
    (hkey : outline.member key = .list (.bytes 32)) (hwords : value.list? Json.fixed? = some words)
    (hbefore : ∀ member ∈ before, outline.member member.1 = .any)
    (hafter : ∀ member ∈ after, outline.member member.1 = .any)
    (hread : readMembers fuel outline text seen =
      some (.object (seen.reverse ++ (before ++ (key, value) :: after)), rest)) (hrest : IsGap rest)
    (hrun : run names ⟨.outside, 1, true, found⟩ text = some e) (hmode : e.mode = .outside)
    (hdepth : e.depth = 0) : e.found = found + occurrences names (before ++ (key, value) :: after) := by
  induction before generalizing fuel text seen found with
  | nil => exact found_of_readPath hnames hkey hwords hafter hread hrest hrun hmode hdepth
  | cons member before ih =>
    obtain ⟨fuel, rfl, hstep⟩ := membersStep_of_readMembers hread
    cases hstep with
    | last _ _ _ _ hresult =>
      have hmembers := List.append_cancel_left (Json.object.inj hresult)
      simp at hmembers
    | @more key' value' _ _ _ next hkeyText htext hgap hvalue hmore =>
      obtain ⟨members, hresult, _⟩ := (ReadsSpelled.all fuel).members hmore
      rw [List.reverse_cons, List.append_assoc] at hresult
      cases List.append_cancel_left (Json.object.inj hresult)
      rw [hbefore _ List.mem_cons_self] at hvalue
      obtain ⟨behind, hspells, rfl⟩ := (ReadsSpelled.all fuel).padded hgap hvalue
      rw [htext, run_append, run_key hkeyText, Option.bind_some, run_append, passes_of_spells hspells,
        Option.bind_some] at hrun
      have hseen : readMembers fuel outline next ((key', value') :: seen) =
          some (.object (((key', value') :: seen).reverse ++ (before ++ (key, value) :: after)), rest) := by
        rw [List.reverse_cons, List.append_assoc]
        exact hmore
      refine (ih (fun _ hmember => hbefore _ (List.mem_cons_of_mem _ hmember)) hseen hrun).trans ?_
      rw [List.cons_append, occurrences_cons, Bool.true_and, Nat.add_assoc]

/-- Whatever is read of the text of an object is an object, whose members stand where the scan counts its
keys. -/
theorem readMembers_of_readAs? {members : List (Option String × Json)}
    (hspells : Spells (.padded (.object members)) text) (hread : readAs? outline text = some value) :
    value = .object [] ∨ ∃ fuel body rest, readMembers fuel outline body [] = some (value, rest) ∧
      IsGap rest ∧ ∀ names, run names ⟨.outside, 1, true, 0⟩ body =
        some ⟨.outside, 0, false, occurrences names members⟩ := by
  rw [readAs?] at hread
  split at hread
  case h_2 => cases hread
  rename_i result rest hvalue
  split at hread
  case isFalse => cases hread
  rename_i hrest
  cases hread
  rw [List.isEmpty_iff, skipGap_eq_nil_iff] at hrest
  cases hspells with
  | padded hbefore hobject hafter =>
    obtain ⟨body, rfl, hscan⟩ := exists_run_object hobject
    rw [List.append_assoc, readValue_append_gap hbefore, List.cons_append] at hvalue
    exact (readMembers_of_readValue hvalue).imp_right fun hmembers =>
      ⟨_, _, rest, hmembers, hrest, fun names => hscan names _ hafter⟩

end Members

end Scan

section Occurrences

variable {names pathNames : List String} {named : List (String × Json)} {value : Json}

theorem occurrences_map_some (names : List String) (named : List (String × Json)) :
    occurrences names (named.map fun (key, value) => (some key, value)) =
      (named.filter fun (key, _) => names.contains key).length := by
  rw [occurrences, List.countP_map, List.countP_eq_length_filter]
  congr 2
  funext member
  rw [Bool.eq_iff_iff]
  simp [isAmong]

/-- A field is found exactly if one member has one of its names. -/
theorem filter_of_member? (hmember : member? names named = some value) :
    ∃ key, named.filter (fun (key, _) => names.contains key) = [(key, value)] := by
  rw [member?] at hmember
  split at hmember
  · rename_i key _ hfilter
    cases hmember
    exact ⟨key, hfilter⟩
  · cases hmember

theorem occurrences_of_member? (hmember : member? names named = some value) :
    occurrences names (named.map fun (key, value) => (some key, value)) = 1 := by
  obtain ⟨key, hfilter⟩ := filter_of_member? hmember
  rw [occurrences_map_some, hfilter]
  rfl

/-- Where an object is read that gives an array of words once, under one of some names, its keys are those
that are spelled. -/
theorem occurrences_of_readAs? {outline : Outline} {members : List (Option String × Json)}
    {words : List Word} {text : List Char} (hnames : Unmistakable names)
    (hspells : Spells (.padded (.object members)) text)
    (hread : readAs? outline text = some (record named)) (hmember : member? pathNames named = some value)
    (hwords : value.list? Json.fixed? = some words)
    (hpath : ∀ name ∈ pathNames, outline.member (some name) = .list (.bytes 32))
    (hothers : ∀ name ∉ pathNames, outline.member (some name) = .any) :
    occurrences names members = occurrences names (named.map fun (key, value) => (some key, value)) := by
  obtain ⟨key, hfilter⟩ := filter_of_member? hmember
  obtain ⟨before, after, rfl, hbefore, hkey, hafter⟩ := List.filter_eq_cons_iff.mp hfilter
  have hany {others : List (String × Json)} (hnone : ∀ member ∈ others, ¬pathNames.contains member.1 = true) :
      ∀ member ∈ others.map fun (key, value) => (some key, value), outline.member member.1 = .any := by
    intro member hmember
    obtain ⟨⟨name, value⟩, hmem, rfl⟩ := List.mem_map.mp hmember
    exact hothers name fun hname => hnone _ hmem (List.elem_iff.mpr hname)
  rw [record, List.map_append, List.map_cons] at hread
  rw [List.map_append, List.map_cons]
  obtain hempty | ⟨fuel, body, rest, hmembers, hrest, hscan⟩ := Scan.readMembers_of_readAs? hspells hread
  · simp at hempty
  · have hfound := Scan.found_of_readMembers hnames (hpath key (List.elem_iff.mp hkey)) hwords (hany hbefore)
      (hany (List.filter_eq_nil_iff.mp hafter)) hmembers hrest (hscan names) rfl rfl
    exact hfound.trans (Nat.zero_add _)

end Occurrences

end RollupBridge.Json
