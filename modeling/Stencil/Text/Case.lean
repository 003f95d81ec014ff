/-
# Letter case, for comparison with ASCII words

Words of the directive language and names of choices are ASCII. A text is
compared with them after a change of case, so only the characters whose changed
form is ASCII matter: the ASCII letters, and the few characters beyond ASCII that
turn into ASCII letters. Every other character is kept. It makes the text differ
from an ASCII word, as its changed form would.
-/

namespace Stencil.Text

/-- The lower-case form, as far as it is ASCII. The Kelvin sign is the only
character beyond ASCII with such a form. -/
def lowerChar (c : Char) : Char :=
  if c.toNat = 0x212A then 'k' else c.toLower

/-- The upper-case form, as far as it is ASCII. Ligatures and the sharp s turn
into more than one letter. -/
def upperChar (c : Char) : List Char :=
  match c.toNat with
  | 0xDF => ['S', 'S']
  | 0x131 => ['I']
  | 0x17F => ['S']
  | 0xFB00 => ['F', 'F']
  | 0xFB01 => ['F', 'I']
  | 0xFB02 => ['F', 'L']
  | 0xFB03 => ['F', 'F', 'I']
  | 0xFB04 => ['F', 'F', 'L']
  | 0xFB05 => ['S', 'T']
  | 0xFB06 => ['S', 'T']
  | _ => [c.toUpper]

/-- Lower case, for comparison with ASCII words. -/
def lower (s : String) : String :=
  String.ofList (s.toList.map lowerChar)

/-- Upper case, for comparison with ASCII words. -/
def upper (s : String) : String :=
  String.ofList (s.toList.flatMap upperChar)

end Stencil.Text
