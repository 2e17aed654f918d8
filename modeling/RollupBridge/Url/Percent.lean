import RollupBridge.Bytes.Hex
import RollupBridge.Text.Utf8

namespace RollupBridge.Url

/-- A byte as a percent sign and two digits in upper case. -/
def percentByte (byte : UInt8) : List Char :=
  ['%', (Hex.digit (byte.toNat / 16)).toUpper, (Hex.digit (byte.toNat % 16)).toUpper]

/-- Percent-encodes the characters outside printable ASCII and those in `reserved`. -/
def percentEncode (reserved : List Char) (text : List Char) : List Char :=
  text.flatMap fun c =>
    if c.toNat < 0x20 || 0x7e < c.toNat || reserved.contains c then
      (String.utf8EncodeChar c).flatMap percentByte
    else [c]

/-- The bytes of a text with its percent-encoded bytes decoded. A percent sign without two digits
stands for itself. -/
def percentBytes : List Char → Bytes
  | '%' :: high :: low :: rest =>
    match Hex.value? high, Hex.value? low with
    | some h, some l => UInt8.ofNat (16 * h + l) :: percentBytes rest
    | _, _ => '%'.toUInt8 :: percentBytes (high :: low :: rest)
  | c :: rest => String.utf8EncodeChar c ++ percentBytes rest
  | [] => []

/-- The decoded text, if its bytes are UTF-8. -/
def percentDecode? (text : List Char) : Option (List Char) :=
  Text.ofUtf8? (percentBytes text)

end RollupBridge.Url
