import RollupBridge.Bytes.Hex
import RollupBridge.Hash.Sha256
import RollupBridge.Uint

namespace RollupBridge

inductive InputError
  | invalidAddress (length : Nat)
  | invalidHash (length : Nat)
  | unknownHashVersion (version marker : UInt8)
deriving DecidableEq

def InputError.message : InputError → String
  | .invalidAddress length => s!"invalid address: expected 20 bytes, got {length}"
  | .invalidHash length => s!"invalid hash: expected 32 bytes, got {length}"
  | .unknownHashVersion version marker =>
    "invalid hash: unsupported bytecode hash prefix " ++ Hex.write [version, marker]

/-- An address from bytes that must be twenty. -/
def Address.ofBytes (bytes : Bytes) : Except InputError Address :=
  match FixedBytes.ofBytes? bytes with
  | some address => .ok address
  | none => .error (.invalidAddress bytes.length)

/-- A word from bytes that must be thirty-two. -/
def Word.ofBytes (bytes : Bytes) : Except InputError Word :=
  match FixedBytes.ofBytes? bytes with
  | some word => .ok word
  | none => .error (.invalidHash bytes.length)

/-- Why bytecode has no hash. -/
inductive BytecodeError
  | empty
  | notWordAligned (length : Nat)
  | evenWordCount (words : Nat)
  | tooLong (words : Nat) (max : Uint 16)
deriving DecidableEq

def BytecodeError.message : BytecodeError → String
  | .empty => "invalid bytecode: empty"
  | .notWordAligned length => s!"invalid bytecode: length {length} is not a multiple of 32"
  | .evenWordCount words => s!"invalid bytecode: {words} words, expected an odd count"
  | .tooLong words max =>
    s!"invalid bytecode: {words} words exceeds the maximum of " ++ toString max.toNat

/-- A hash of L2 bytecode. It carries a version byte, a zero byte and the length in words before the
tail of a digest. -/
structure BytecodeHash where
  word : Word
deriving DecidableEq

namespace BytecodeHash

/-- The version byte of every hash. -/
def version : UInt8 := 1

/-- The bytes of one word of bytecode. -/
def wordSize : Nat := 32

/-- The largest length in words a hash can carry. -/
def maxWords : Uint 16 := 65535

/-- Reads a hash and checks its version and the zero byte after it. -/
def ofBytes (bytes : Bytes) : Except InputError BytecodeHash := do
  let word ← Word.ofBytes bytes
  let found := word.bytes.headD 0
  let marker := (word.bytes.drop 1).headD 0
  if found ≠ version ∨ marker ≠ 0 then .error (.unknownHashVersion found marker) else .ok ⟨word⟩

/-- The length the hash records. -/
def lengthInWords (hash : BytecodeHash) : Uint 16 :=
  BitVec.ofNat 16 (Bytes.toNat ((hash.word.bytes.drop 2).take 2))

/-- The `0x` form of a hash. -/
def display (hash : BytecodeHash) : String := Hex.write hash.word.bytes

end BytecodeHash

/-- Hashes bytecode of at most `maxWords` words with a digest. -/
structure BytecodeHasher where
  maxWords : Uint 16
  digest : Bytes → Word

namespace BytecodeHasher

def standard : BytecodeHasher := ⟨BytecodeHash.maxWords, sha256⟩

/-- The layout of a hash: version, zero, length in words, and the digest from its fifth byte on. -/
def stamp (words : Nat) (digest : Word) : BytecodeHash :=
  ⟨⟨BytecodeHash.version :: 0 :: Bytes.ofNat 2 words ++ digest.bytes.drop 4, by simp⟩⟩

/-- The hash of a bytecode, or the first reason why it has none. -/
def hash (hasher : BytecodeHasher) (code : Bytes) : Except BytecodeError BytecodeHash :=
  let words := code.length / BytecodeHash.wordSize
  if code.isEmpty then .error .empty
  else if code.length % BytecodeHash.wordSize ≠ 0 then .error (.notWordAligned code.length)
  else if hasher.maxWords.toNat < words then .error (.tooLong words hasher.maxWords)
  else if words % 2 = 0 then .error (.evenWordCount words)
  else .ok (stamp words (hasher.digest code))

end BytecodeHasher

end RollupBridge
