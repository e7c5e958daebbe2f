/-!
# Characters and their bytes

Cursors count characters, and a text is stored as bytes.  `placed` lists the
characters of a text, each with the byte at which its encoding begins, so that a
run of characters can be cut out of the stored bytes by `cut?`.

A cut is refused when either end is not the boundary of a character, or when the
ends are the wrong way round.  The main statement is `cut?_append`: the middle of
three texts put together is what lies between the bytes that it spans.
-/

set_option autoImplicit false

namespace FaultReport.Text

/-- Spaces and control characters: the characters up to and including the space. -/
def isBlank (character : Char) : Bool := character ≤ ' '

/-! ## Characters in their places -/

/-- A character of a text, with the byte at which its encoding begins. -/
structure Placed where
  byte : Nat
  character : Char
  deriving DecidableEq, Repr

/-- The byte just after the encoding of a placed character. -/
def Placed.stop (placed : Placed) : Nat := placed.byte + placed.character.utf8Size

/-- Places characters one after the other, the first of them at `byte`. -/
def placedFrom (byte : Nat) : List Char → List Placed
  | [] => []
  | character :: rest => ⟨byte, character⟩ :: placedFrom (byte + character.utf8Size) rest

/-- The characters of a text in their places. -/
def placed (text : String) : List Placed := placedFrom 0 text.toList

/-! ## Cutting bytes -/

/-- The part of a text between two bytes, or nothing if one of them is inside a
character or the first comes after the second. -/
def cut? (text : String) (first stop : Nat) : Option String :=
  if fits : String.Pos.Raw.IsValid text ⟨first⟩ ∧ String.Pos.Raw.IsValid text ⟨stop⟩ ∧
      first ≤ stop then
    some (text.extract (text.pos ⟨first⟩ fits.1) (text.pos ⟨stop⟩ fits.2.1))
  else
    none

/-- **A cut at character boundaries returns the characters between them.** -/
theorem cut?_append (before middle after : String) :
    cut? (before ++ middle ++ after) before.utf8ByteSize
      (before.utf8ByteSize + middle.utf8ByteSize) = some middle := by
  have first : String.Pos.Raw.IsValid (before ++ middle ++ after) ⟨before.utf8ByteSize⟩ :=
    String.Pos.Raw.isValid_iff_exists_append.2
      ⟨before, middle ++ after, String.append_assoc .., by simp [String.Pos.Raw.ext_iff]⟩
  have stop : String.Pos.Raw.IsValid (before ++ middle ++ after)
      ⟨before.utf8ByteSize + middle.utf8ByteSize⟩ :=
    String.Pos.Raw.isValid_iff_exists_append.2
      ⟨before ++ middle, after, rfl, by simp [String.Pos.Raw.ext_iff]⟩
  rw [cut?, dif_pos ⟨first, stop, Nat.le_add_right _ _⟩]
  refine congrArg some (String.toByteArray_inj.1 ?_)
  rw [String.toByteArray_extract, String.toByteArray_append, String.toByteArray_append,
    ByteArray.append_assoc]
  have skipped := ByteArray.extract_append_size_add (a := before.toByteArray)
    (b := middle.toByteArray ++ after.toByteArray) (i := 0) (j := middle.utf8ByteSize)
  simp only [String.size_toByteArray, Nat.add_zero] at skipped
  exact skipped.trans (ByteArray.extract_append_eq_left (String.size_toByteArray).symm)

end FaultReport.Text
