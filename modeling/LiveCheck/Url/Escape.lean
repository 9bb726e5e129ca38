import LiveCheck.Text.Digits

/-!
Percent escapes of addresses.

A character that may not stand for itself is written as the escapes of its bytes. Which
characters those are depends on the part of the address: each class below holds
the characters that are escaped in one part.
-/

namespace LiveCheck

namespace Escape

/-- The escape of a byte. -/
def escapeByte (byte : UInt8) : List Char :=
  ['%', upperDigit (byte.toNat / 16), upperDigit (byte.toNat % 16)]

/-- A character as the escapes of its bytes. -/
def escapeChar (c : Char) : List Char :=
  (String.singleton c).toUTF8.toList.flatMap escapeByte

/-- A text with the characters of a class escaped. -/
def escape (isEscaped : Char → Bool) (cs : List Char) : String :=
  String.ofList (cs.flatMap fun c => if isEscaped c then escapeChar c else [c])

/-- Some bytes as text, with those escaped that are characters of a class. The class has all
characters beyond ASCII. -/
def escapeBytes (isEscaped : Char → Bool) (bytes : List UInt8) : String :=
  String.ofList (bytes.flatMap fun byte =>
    if isEscaped (Char.ofNat byte.toNat) then escapeByte byte else [Char.ofNat byte.toNat])

/-- The bytes of a text with its escapes resolved. A percent sign without two
digits stands for itself. -/
def unescape : List Char → List UInt8
  | [] => []
  | '%' :: a :: b :: rest =>
    match digitValue? a, digitValue? b with
    | some high, some low => (high * 16 + low).toUInt8 :: unescape rest
    | _, _ => 37 :: unescape (a :: b :: rest)
  | c :: rest => (String.singleton c).toUTF8.toList ++ unescape rest

/-! ## Classes -/

/-- Characters that are escaped everywhere: controls and all beyond ASCII. -/
def isControl (c : Char) : Bool :=
  c.toNat < 0x20 || 0x7E < c.toNat

/-- Characters that are escaped in a query. An apostrophe is one of them if the
scheme has hosts of its own. -/
def isQueryEscaped (hosted : Bool) (c : Char) : Bool :=
  isControl c || [' ', '"', '#', '<', '>'].contains c || (hosted && c == '\'')

/-- Characters that are escaped in a fragment. -/
def isFragmentEscaped (c : Char) : Bool :=
  isControl c || [' ', '"', '<', '>', Char.ofNat 96].contains c

/-- Characters that are escaped in a path. -/
def isPathEscaped (c : Char) : Bool :=
  isFragmentEscaped c || ['#', '?', '{', '}'].contains c

/-- Characters of a file name that are escaped in a path. -/
def isNameEscaped (c : Char) : Bool :=
  isPathEscaped c || ['/', '%', '\\'].contains c

/-- Characters that are escaped in the name and the password of a user. -/
def isUserEscaped (c : Char) : Bool :=
  isPathEscaped c || ['/', ':', ';', '=', '@', '[', '\\', ']', '^', '|'].contains c

end Escape

end LiveCheck
