/-! Names of files and folders. A name is made of bytes, and need not be a text. -/
namespace Shortlist

abbrev FileName := List UInt8

namespace FileName

def ofText (s : String) : FileName := s.toUTF8.data.toList

def text? (name : FileName) : Option String := String.fromUTF8? ⟨name.toArray⟩

/-- A name that is not a text is not hidden, whatever its first byte. -/
def isHidden (name : FileName) : Bool := name.text?.any (·.startsWith ".")

/-- What follows the last point of the name, if the point is not the first byte. -/
def extension? (name : FileName) : Option FileName :=
  let bytes := name.reverse
  let after := bytes.takeWhile (· ≠ 0x2e)
  match bytes.drop after.length with
  | [] | [_] => none
  | _ => some after.reverse

/-! ### Names in messages -/

def width (first : UInt8) : Nat :=
  if first < 0xc2 then 1 else if first < 0xe0 then 2 else if first < 0xf0 then 3
  else if first < 0xf5 then 4 else 1

/-- Whether a byte goes on with a character. The second one has less room after some first ones. -/
def goesOn (first next : UInt8) (place : Nat) : Bool :=
  let least := if place = 0 && first == 0xe0 then 0xa0 else if place = 0 && first == 0xf0 then 0x90
    else 0x80
  let most := if place = 0 && first == 0xed then 0x9f else if place = 0 && first == 0xf4 then 0x8f
    else 0xbf
  least ≤ next && next ≤ most

/-- A replacement character stands for the beginning of a character that does not go on. -/
def shown : FileName → String
  | [] => ""
  | first :: rest =>
    let more := (rest.take (width first - 1)).zipIdx.takeWhile fun next =>
      goesOn first next.1 next.2
    (text? (first :: rest.take more.length)).getD "\uFFFD" ++ shown (rest.drop more.length)
termination_by name => name.length
decreasing_by simp only [List.length_drop, List.length_cons]; omega

end FileName
end Shortlist
