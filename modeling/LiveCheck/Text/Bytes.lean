/-!
A text in UTF-8 bytes and UTF-16 units: what its bytes are, and how it is measured and cut.

Offsets count bytes while columns of an editor count UTF-16 units. A cut at an
offset inside a character falls before that character, and a cut past the end
falls at the end.
-/

namespace LiveCheck

/-- The bytes of a text. -/
def bytesOf (text : String) : List UInt8 := text.toUTF8.data.toList

/-- The text that some bytes are, if they are one. -/
def textOf? (bytes : List UInt8) : Option String := String.fromUTF8? ⟨bytes.toArray⟩

/-- The number of bytes of a text in UTF-8. -/
def byteLength : List Char → Nat
  | [] => 0
  | c :: rest => c.utf8Size + byteLength rest

/-- The number of UTF-16 units of a character. -/
def unitSize (c : Char) : Nat :=
  if c.toNat < 0x10000 then 1 else 2

/-- The number of UTF-16 units of a text. -/
def unitLength : List Char → Nat
  | [] => 0
  | c :: rest => unitSize c + unitLength rest

/-- The longest beginning of a text that has at most `limit` bytes. -/
def takeBytes (limit : Nat) : List Char → List Char
  | [] => []
  | c :: rest => if c.utf8Size ≤ limit then c :: takeBytes (limit - c.utf8Size) rest else []

/-- What follows the longest beginning that has at most `limit` bytes. -/
def dropBytes (limit : Nat) : List Char → List Char
  | [] => []
  | c :: rest => if c.utf8Size ≤ limit then dropBytes (limit - c.utf8Size) rest else c :: rest

/-- The last character boundary at or before `offset`. -/
def floorBoundary (offset : Nat) (cs : List Char) : Nat :=
  byteLength (takeBytes offset cs)

@[simp]
theorem byteLength_nil : byteLength [] = 0 := rfl

@[simp]
theorem byteLength_cons (c : Char) (cs : List Char) :
    byteLength (c :: cs) = c.utf8Size + byteLength cs := rfl

theorem byteLength_append (a b : List Char) :
    byteLength (a ++ b) = byteLength a + byteLength b := by
  induction a with
  | nil => simp
  | cons c rest ih => rw [List.cons_append, byteLength_cons, byteLength_cons, ih, Nat.add_assoc]

/-- A cut loses nothing. -/
theorem takeBytes_append_dropBytes (limit : Nat) (cs : List Char) :
    takeBytes limit cs ++ dropBytes limit cs = cs := by
  induction cs generalizing limit with
  | nil => rfl
  | cons c rest ih =>
    rw [takeBytes, dropBytes]
    split
    · rw [List.cons_append, ih]
    · rfl

/-- The beginning fits. -/
theorem byteLength_takeBytes_le (limit : Nat) (cs : List Char) :
    byteLength (takeBytes limit cs) ≤ limit := by
  induction cs generalizing limit with
  | nil => simp [takeBytes]
  | cons c rest ih =>
    rw [takeBytes]
    split
    · have := ih (limit - c.utf8Size)
      rw [byteLength_cons]
      omega
    · simp

end LiveCheck
