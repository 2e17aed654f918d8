import RollupBridge.Proofs.Bytecode
import RollupBridge.Proofs.Json.RoundTrip

namespace RollupBridge

open JsonForm

/-- The types in whose JSON form hashes stand. -/
inductive HashForm
  | hash
  | deployment
  | contractHashes

namespace HashForm

/-- The hashes that are read from a text, in the order of the fields. -/
def read? (text : String) : HashForm → Option (List BytecodeHash)
  | hash => (parse? text : Option BytecodeHash).map fun hash => [hash]
  | deployment => (parse? text : Option Deployment).map fun d => [d.bytecodeHash]
  | contractHashes => (parse? text : Option BridgeContractHashes).map fun hashes =>
    [hashes.implementation, hashes.proxy, hashes.tokenProxy, hashes.standardToken, hashes.tokenBeacon]

/-- What stands in a text where hashes are expected. -/
def places? (text : String) : HashForm → Option (List Json)
  | hash => (Json.readAs? (outline BytecodeHash) text.toList).map fun json => [json]
  | deployment => do
    let json ← Json.readAs? (outline Deployment) text.toList
    let values ← json.fields? Deployment.jsonFields
    return [← values[1]?]
  | contractHashes => do
    let json ← Json.readAs? (outline BridgeContractHashes) text.toList
    json.fields? BridgeContractHashes.jsonFields

/-- The words that a text spells where hashes are expected. -/
def words? (text : String) (form : HashForm) : Option (List Word) := do
  (← form.places? text).mapM Json.fixed?

/-- A hash is read as the word that is spelled, whatever that starts with. -/
theorem ofJson?_eq_some_iff {json : Json} {hash : BytecodeHash} :
    ofJson? json = some hash ↔ json.fixed? = some hash.word := by
  refine Option.map_eq_some_iff.trans ⟨?_, fun hword => ⟨hash.word, hword, rfl⟩⟩
  rintro ⟨word, hword, rfl⟩
  exact hword

theorem words?_of_read? {form : HashForm} {text : String} {hashes : List BytecodeHash}
    (hread : form.read? text = some hashes) : form.words? text = some (hashes.map (·.word)) := by
  cases form with
  | hash =>
    obtain ⟨hash, hhash, rfl⟩ := Option.map_eq_some_iff.mp hread
    obtain ⟨json, hjson, hvalue⟩ := Option.bind_eq_some_iff.mp hhash
    simp [words?, places?, hjson, ofJson?_eq_some_iff.mp hvalue]
  | deployment =>
    obtain ⟨d, hd, rfl⟩ := Option.map_eq_some_iff.mp hread
    obtain ⟨json, hjson, hvalue⟩ := Option.bind_eq_some_iff.mp hd
    obtain ⟨values, hvalues, hvalue⟩ := Option.bind_eq_some_iff.mp hvalue
    split at hvalue
    · obtain ⟨_, _, hvalue⟩ := Option.bind_eq_some_iff.mp hvalue
      obtain ⟨hash, hhash, hvalue⟩ := Option.bind_eq_some_iff.mp hvalue
      obtain ⟨_, _, hvalue⟩ := Option.bind_eq_some_iff.mp hvalue
      obtain ⟨_, _, hvalue⟩ := Option.bind_eq_some_iff.mp hvalue
      cases hvalue
      simp [words?, places?, hjson, hvalues, ofJson?_eq_some_iff.mp hhash]
    · cases hvalue
  | contractHashes =>
    obtain ⟨hashes, hhashes, rfl⟩ := Option.map_eq_some_iff.mp hread
    obtain ⟨json, hjson, hvalue⟩ := Option.bind_eq_some_iff.mp hhashes
    obtain ⟨values, hvalues, hvalue⟩ := Option.bind_eq_some_iff.mp hvalue
    split at hvalue
    · obtain ⟨_, himplementation, hvalue⟩ := Option.bind_eq_some_iff.mp hvalue
      obtain ⟨_, hproxy, hvalue⟩ := Option.bind_eq_some_iff.mp hvalue
      obtain ⟨_, htokenProxy, hvalue⟩ := Option.bind_eq_some_iff.mp hvalue
      obtain ⟨_, hstandardToken, hvalue⟩ := Option.bind_eq_some_iff.mp hvalue
      obtain ⟨_, htokenBeacon, hvalue⟩ := Option.bind_eq_some_iff.mp hvalue
      cases hvalue
      simp [words?, places?, hjson, hvalues, ofJson?_eq_some_iff.mp himplementation,
        ofJson?_eq_some_iff.mp hproxy, ofJson?_eq_some_iff.mp htokenProxy,
        ofJson?_eq_some_iff.mp hstandardToken, ofJson?_eq_some_iff.mp htokenBeacon]
    · cases hvalue

/-- How many hashes stand in the form. -/
def count : HashForm → Nat
  | hash | deployment => 1
  | contractHashes => 5

/-- Every hash, whatever its word, is read wherever one is expected. -/
theorem exists_read? (form : HashForm) (hash : BytecodeHash) :
    ∃ text, form.read? text = some (List.replicate form.count hash) := by
  cases form with
  | hash =>
    refine ⟨write hash, ?_⟩
    rw [read?, parse?_write]
    rfl
  | deployment =>
    refine ⟨write (Deployment.create FixedBytes.zero hash []), ?_⟩
    rw [read?, parse?_write]
    rfl
  | contractHashes =>
    refine ⟨write (⟨hash, hash, hash, hash, hash⟩ : BridgeContractHashes), ?_⟩
    rw [read?, parse?_write]
    rfl

end HashForm

namespace BytecodeHash

/-- The ways to a hash: from a bytecode, from bytes, and from a place in a text. -/
inductive Origin
  | hashed (hasher : BytecodeHasher) (code : Bytes)
  | sliced (bytes : Bytes)
  | spelled (form : HashForm) (text : String) (place : Nat)

namespace Origin

/-- The way leads to the hash. -/
def Yields : Origin → BytecodeHash → Prop
  | hashed hasher code, hash => hasher.hash code = .ok hash
  | sliced bytes, hash => ofBytes bytes = .ok hash
  | spelled form text place, hash => ∃ hashes, form.read? text = some hashes ∧ hashes[place]? = some hash

/-- The way leads to marked hashes: always, or, from a text, if the word that is spelled there is marked. -/
def Marks : Origin → Prop
  | hashed _ _ | sliced _ => True
  | spelled form text place =>
    ∃ words word, form.words? text = some words ∧ words[place]? = some word ∧ word.bytes.take 2 = [1, 0]

theorem marked_iff_of_yields {origin : Origin} {hash : BytecodeHash} (hyields : origin.Yields hash) :
    hash.Marked ↔ origin.Marks := by
  cases origin with
  | hashed hasher code => exact iff_true_intro (BytecodeHasher.says_of_hash hyields).1
  | sliced bytes => exact iff_true_intro (ofBytes_eq_ok_iff.mp hyields).2
  | spelled form text place =>
    obtain ⟨hashes, hread, hplace⟩ := hyields
    have hword : (hashes.map (·.word))[place]? = some hash.word := by
      rw [List.getElem?_map, hplace, Option.map_some]
    constructor
    · intro hmarked
      exact ⟨_, _, HashForm.words?_of_read? hread, hword, hmarked⟩
    · rintro ⟨words, word, hwords, hspelled, hmarked⟩
      cases hwords.symm.trans (HashForm.words?_of_read? hread)
      cases hspelled.symm.trans hword
      exact hmarked

/-- A hash is read back from its bytes exactly if they start with the version and a zero byte. A hash that
is made from a bytecode or read from bytes always does, and one from a text exactly if the word that is
spelled for it does: nothing is asked of that word, and wherever a hash is expected any word is read. -/
theorem readable_iff_spelled_marked {origin : Origin} {hash : BytecodeHash} (hyields : origin.Yields hash) :
    (ofBytes hash.word.bytes = .ok hash ↔ hash.word.bytes.take 2 = [1, 0]) ∧
      (hash.word.bytes.take 2 = [1, 0] ↔ origin.Marks) ∧
      ∀ (form : HashForm) word, ∀ place < form.count, ∃ text, (spelled form text place).Yields ⟨word⟩ := by
  refine ⟨ofBytes_eq_ok_iff.trans (and_iff_right rfl), marked_iff_of_yields hyields, ?_⟩
  intro form word place hplace
  obtain ⟨text, hread⟩ := form.exists_read? ⟨word⟩
  exact ⟨text, _, hread, List.getElem?_replicate_of_lt hplace⟩

/-- The hash of no bytecode, of one word. -/
def blank : BytecodeHash := BytecodeHasher.stamp 1 FixedBytes.zero

/-- The hash of no bytecode, spelled byte by byte. -/
def blankText : String :=
  "[1, 0, 0, 1, 0, 0, 0, 0, 0, 0, 0, 0, 0, 0, 0, 0, 0, 0, 0, 0, 0, 0, 0, 0, 0, 0, 0, 0, 0, 0, 0, 0]"

/-- A hash that is spelled byte by byte is marked, and read back from its bytes. -/
theorem readable_iff_spelled_marked_of_blank :
    (spelled .hash blankText 0).Yields blank ∧ ofBytes blank.word.bytes = .ok blank := by
  have hread : HashForm.hash.read? blankText = some [blank] := by decide +kernel
  have hyields : (spelled .hash blankText 0).Yields blank := ⟨_, hread, rfl⟩
  exact ⟨hyields, (readable_iff_spelled_marked hyields).1.mpr (by rfl)⟩

/-- A word of zeros is read as a hash, which its bytes are not. -/
theorem unmarked_hash_is_read :
    ¬∀ (origin : Origin) (hash : BytecodeHash), origin.Yields hash →
      ofBytes hash.word.bytes = .ok hash := by
  intro hclaim
  have hread : HashForm.hash.read? "\"0x0000000000000000000000000000000000000000000000000000000000000000\"" =
      some [⟨FixedBytes.zero⟩] := by decide +kernel
  exact absurd (hclaim (spelled .hash _ 0) _ ⟨_, hread, rfl⟩) (by decide)

end Origin

end BytecodeHash

end RollupBridge
