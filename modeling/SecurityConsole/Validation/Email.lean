/-
E-mail addresses as web forms accept them: a local part of up to 64
characters, an `@`, and a domain of up to 255. The domain is labels of
letters, digits and inner hyphens between points, possibly of another
script, or ends in an address of the internet protocol in brackets.
-/
import SecurityConsole.Validation.DomainName
import SecurityConsole.Validation.IpAddress

namespace SecurityConsole.Validation

open Text

/-- Letters and digits, in either case. The long s and the kelvin sign
are capitals or small forms of letters of ASCII, and count as them. -/
def isEmailAlnum (c : Char) : Bool :=
  c.isAlphanum || c.toNat = 0x17f || c.toNat = 0x212a

/-- The characters of a local part. -/
def isLocalChar (c : Char) : Bool :=
  isEmailAlnum c ||
    c ∈ ['.', '!', '#', '$', '%', '&', '\'', '*', '+', '/', '=', '?',
      '^', '_', '\x60', '\x7b', '|', '\x7d', '~', '-']

/-- A label: letters, digits and hyphens, no hyphen at either end, at
most 63 characters. -/
def isLabel (l : List Char) : Bool :=
  match l.head?, l.getLast? with
  | some a, some b =>
    isEmailAlnum a && isEmailAlnum b && l.length ≤ 63 &&
      l.all fun c => isEmailAlnum c || c = '-'
  | _, _ => false

/-- Labels between points. -/
def isDomain (s : List Char) : Bool := (cutAt (· = '.') s).all isLabel

/-- A text that ends in an address between brackets. What stands before
the bracket is not looked at. The address is told by its form, as
`isIpAddress` has it; no tag of a version or of another kind of literal
is known. -/
def endsInAddress (s : List Char) : Bool :=
  match s.reverse with
  | ']' :: rest =>
    let inner := (rest.takeWhile (· ≠ '[')).reverse
    rest.contains '[' && !inner.isEmpty &&
      inner.all (fun c => (Hex.value? c).isSome || c = ':' || c = '.') &&
      isIpAddress inner
  | _ => false

/-- A domain of ASCII, or one that ends in an address. -/
def isDomainPart (s : List Char) : Bool := isDomain s || endsInAddress s

/-- Whether a text is an e-mail address. The last `@` divides it. -/
def isEmail (s : String) : Bool :=
  let cs := s.toList
  let domain := (cs.reverse.takeWhile (· ≠ '@')).reverse
  let name := ((cs.reverse.dropWhile (· ≠ '@')).drop 1).reverse
  cs.contains '@' && name.length ≤ 64 && domain.length ≤ 255 &&
    !name.isEmpty && name.all isLocalChar &&
    (isDomainPart domain || (asciiDomain? domain).any isDomainPart)

end SecurityConsole.Validation
