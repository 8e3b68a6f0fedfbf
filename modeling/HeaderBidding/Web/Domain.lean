import HeaderBidding.Web.Domain.Table
import HeaderBidding.Web.Domain.Classes
import HeaderBidding.Web.Punycode
import HeaderBidding.Text.Canonical

/-!
# Domain names

`Domain.labels?` checks a domain name as web addresses read it (UTS 46 non-transitional
processing, hyphens unchecked, joiners and bidirectional text checked, standard ASCII rules off)
and gives its labels in Unicode, or `none` when the name is invalid:

1. each character is replaced as `domainStatus` says; a disallowed one makes the name invalid;
2. the name must then hold no forbidden ASCII character (a control, the space, DEL, or one of
   `#%/:<>?@[\]^|`);
3. it is put in Normalization Form C and cut into labels at full stops;
4. a label starting with `xn--` must be ASCII and is replaced by its Punycode decoding, which
   must succeed, be non-empty, hold a character beyond ASCII and be in Normalization Form C;
5. no label may start with a mark, every character must be valid or a deviation, and a
   zero-width joiner must follow a virama (combining class 9), as must a zero-width non-joiner
   unless it stands between a left- or dual-joining character and a right- or dual-joining one,
   transparent characters aside;
6. when some character of the name is right-to-left (`R`, `AL`) or an Arabic digit (`AN`),
   every non-empty label must keep the bidirectional rule: a label starting with `L` holds only
   `L EN ES CS ET ON BN NSM` and ends, marks aside, with `L` or `EN`; one starting with `R` or
   `AL` holds no `L` and not both `EN` and `AN`, and ends, marks aside, with `R AL EN AN`; a
   label starting otherwise is refused.
-/

namespace HeaderBidding.Web

open Text

/-- Whether an ASCII character may not stand in a domain. -/
def isForbiddenInDomain (c : Char) : Bool :=
  c.toNat ≤ 0x20 || c.toNat == 0x7F || "#%/:<>?@[\\]^|".toList.contains c

/-- The characters of a name after the mapping table, or `none` when one is disallowed. -/
def mapDomain : List Char → Option (List Char)
  | [] => some []
  | c :: rest =>
    match domainStatus c with
    | .valid | .deviation => (mapDomain rest).map (c :: ·)
    | .ignored => mapDomain rest
    | .mapped image => (mapDomain rest).map (image ++ ·)
    | .disallowed => none

/-- The labels of a name: its parts between full stops. -/
def splitAtDots : List Char → List (List Char)
  | [] => [[]]
  | c :: rest =>
    if c = '.' then [] :: splitAtDots rest
    else
      match splitAtDots rest with
      | l :: ls => (c :: l) :: ls
      | [] => [[c]]

example : splitAtDots "a.bc.".toList = ["a".toList, "bc".toList, []] := by decide

/-! ### Joiners -/

/-- Whether the character before a position (the head of the reversed prefix) is a virama. -/
def followsVirama : List Char → Bool
  | c :: _ => combiningClass c.toNat == 9
  | [] => false

/-- Whether, transparent characters skipped, the first character is of one of the types. -/
def firstJoins (types : List JoiningType) (cs : List Char) : Bool :=
  match cs.dropWhile (joiningType · == .transparent) with
  | c :: _ => types.contains (joiningType c)
  | [] => false

/-- Whether every joiner of `rest` stands where it may; `before` is the reversed prefix. -/
def joinersOk : List Char → List Char → Bool
  | _, [] => true
  | before, c :: after =>
    let ok :=
      if c.toNat == 0x200C then
        followsVirama before ||
          (firstJoins [.leftJoining, .dualJoining] before &&
            firstJoins [.rightJoining, .dualJoining] after)
      else if c.toNat == 0x200D then followsVirama before
      else true
    ok && joinersOk (c :: before) after

/-! ### Bidirectional text -/

/-- Whether a character makes a name one of bidirectional text. -/
def isRightToLeft (c : Char) : Bool :=
  match bidiClass c with
  | .rightToLeft | .arabicLetter | .arabicNumber => true
  | _ => false

/-- The class of the last character that is not a nonspacing mark. -/
def lastClass (label : List Char) : Option BidiClass :=
  (label.reverse.map bidiClass).find? (· != .nonspacingMark)

/-- Whether a label keeps the bidirectional rule. -/
def bidiLabelOk (label : List Char) : Bool :=
  match label with
  | [] => true
  | c :: rest =>
    let classes := rest.map bidiClass
    match bidiClass c with
    | .leftToRight =>
      classes.all (fun k => [.leftToRight, .europeanNumber, .europeanSeparator,
          .commonSeparator, .europeanTerminator, .otherNeutral, .boundaryNeutral,
          .nonspacingMark].contains k) &&
        [some .leftToRight, some .europeanNumber].contains (lastClass label)
    | .rightToLeft | .arabicLetter =>
      classes.all (fun k => [.rightToLeft, .arabicLetter, .arabicNumber, .europeanNumber,
          .europeanSeparator, .commonSeparator, .europeanTerminator, .otherNeutral,
          .boundaryNeutral, .nonspacingMark].contains k) &&
        [some .rightToLeft, some .arabicLetter, some .europeanNumber,
          some .arabicNumber].contains (lastClass label) &&
        !(classes.contains .europeanNumber && classes.contains .arabicNumber)
    | _ => false

/-! ### Labels -/

/-- Whether a label has the shape of a valid one: no mark first, only valid characters, joiners
where they may stand. -/
def labelShapeOk (label : List Char) : Bool :=
  (match label with
   | c :: _ => !isMark c
   | [] => true) &&
    label.all (fun c => match domainStatus c with
      | .valid | .deviation => true
      | _ => false) &&
    joinersOk [] label

/-- The label a label of the normalized name stands for, when it is valid. -/
def convertLabel (label : List Char) : Option (List Char) :=
  match label with
  | 'x' :: 'n' :: '-' :: '-' :: code =>
    if !code.all (·.toNat < 0x80) then none
    else
      match Punycode.decode code with
      | none => none
      | some decoded =>
        if decoded.all (·.toNat < 0x80) || !isNfc decoded || !labelShapeOk decoded then none
        else some decoded
  | _ => if labelShapeOk label then some label else none

/-- The labels of a valid domain name, in Unicode (see the module note). -/
def Domain.labels? (name : List Char) : Option (List (List Char)) := do
  let mapped ← mapDomain name
  if mapped.any isForbiddenInDomain then none
  let labels ← (splitAtDots (nfc mapped)).mapM convertLabel
  if labels.any (·.any isRightToLeft) && !labels.all bidiLabelOk then none
  return labels

end HeaderBidding.Web
