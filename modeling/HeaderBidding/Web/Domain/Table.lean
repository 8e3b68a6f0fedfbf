import HeaderBidding.Text.Packed

/-!
# The mapping of characters in domain names

Before a domain name is checked, each of its characters is looked up in the mapping table of
Unicode IDNA Compatibility Processing (UTS 46) for Unicode 17.0, read with the standard ASCII
rules off: every ASCII character is valid, capitals being mapped to small letters. A character is

- `valid`, and stays;
- a `deviation` (`ß`, `ς`, the zero-width joiners), and stays as well;
- `ignored`, and is dropped;
- `disallowed`, which makes the name invalid;
- `mapped` to a sequence of characters that takes its place.

The table is packed in the manner of `Text.Packed` as runs `(gap, status)`, a mapped run adding
its mapping as a count and the offsets of its characters from the run's start.
-/

namespace HeaderBidding.Web

open Text

/-- What the mapping table says of a character. -/
inductive DomainStatus where
  | valid
  | deviation
  | ignored
  | disallowed
  | mapped (image : List Char)
  deriving DecidableEq, Repr, Inhabited

/-- The packed mapping table. -/
def domainTableText : String :=
  "AABABABABABABABABABABABABABABABABABABABABABABABABABABABABABABABABABABABABABABABABABABABABABABABA
  BABABABABABABABABABABABABABABABABABEBgCBEBgCBEBgCBEBgCBEBgCBEBgCBEBgCBEBgCBEBgCBEBgCBEBgCBEBgCBE
  BgCBEBgCBEBgCBEBgCBEBgCBEBgCBEBgCBEBgCBEBgCBEBgCBEBgCBEBgCBEBgCBEBgCBABABABABABABABABABABABABABA
  BABABABABABABABABABABABABABABABABABABABABABABABDBDBDBDBDBDBDBDBDBDBDBDBDBDBDBDBDBDBDBDBDBDBDBDBD
  BDBDBDBDBDBDBDBEB/HBABABABABABABABECvIgmBBABEBxEBABABCBABEC9IqlBBABABEB/HBEB/HBECnJ6kBBEBuwBBABA
  BECvJ+mBBEBvIBEB1EBABED1Iw4PvIBED3Iu4P1IBED1Is4PzIBABEBgCBEBgCBEBgCBEBgCBEBgCBEBgCBEBgCBEBgCBEBg
  CBEBgCBEBgCBEBgCBEBgCBEBgCBEBgCBEBgCBEBgCBEBgCBEBgCBEBgCBEBgCBEBgCBEBgCBABEBgCBEBgCBEBgCBEBgCBEB
  gCBEBgCBEBgCBBBABABABABABABABABABABABABABABABABABABABABABABABABABABABABABABABABEBCBABEBCBABEBCBA
  BEBCBABEBCBABEBCBABEBCBABEBCBABEBCBABEBCBABEBCBABEBCBABEBCBABEBCBABEBCBABEBCBABEBCBABEBCBABEBCBA
  BEBCBABEBCBABEBCBABEBCBABEBCBABECtMudBABECxMvMCEBCBABEBCBACEBCBABEBCBABEBCBABEClNvICEBCBABEBCBAB
  EBCBABEBCBABECmX1NBEBCBABEBCBABEBCBABEBCBABEBCBABEBCBABEBCBABEBCBABEBCBABEBCBABEBCBABEBCBABEBCBA
  BEBCBABEBCBABEBCBABEBCBABEBCBABEBCBABEBCBABEBCBABEBCBABEBCBABEBxHBEBCBABEBCBABEBCBABEB3QBABEBkNB
  EBCBABEBCBABEB8MBEBCBABEB6MBEB6MBEBCBACEB+EBEB0MBEB2MBEBCBABEB6MBEB+MBABEBmNBEBiNBEBCBADEBmNBEBq
  NBABEBsNBEBCBABEBCBABEBCBABEB0NBEBCBABEB0NBACEBCBABEB0NBEBCBABEByNBEByNBEBCBABEBCBABEB2NBEBCBADE
  BCBAHEC/VrEDEC1V5VDEC3V/VDEBCBABEBCBABEBCBABEBCBABEBCBABEBCBABEBCBABEBCBACEBCBABEBCBABEBCBABEBCB
  ABEBCBABEBCBABEBCBABEBCBABEBCBACEC5YtXDEBCBABEBhGBEBvDBEBCBABEBCBABEBCBABEBCBABEBCBABEBCBABEBCBA
  BEBCBABEBCBABEBCBABEBCBABEBCBABEBCBABEBCBABEBCBABEBCBABEBCBABEBCBABEBCBABEBCBABEBjIBABEBCBABEBCB
  ABEBCBABEBCBABEBCBABEBCBABEBCBABEBCBABEBCBAHEB2iVBEBCBABEBlKBEBwiVBACEBCBABEBlMBEBqEBEBuEBEBCBAB
  EBCBABEBCBABEBCBABEBCBAhDEBvkBBEB1EBEBvkBBEBhkBBEB1DBEBzDBEBpDBEB/jBBEB9jBBAfECvrB8CBECxrB8CBECz
  rBgDBEC1rB6EBEC3rBuCBEC5rB8CBACEB5HBEBpnBBEB9mBBEB1mBBEB9EBA7CEB/DBEB/DBABEB/CBEC3DlEBEBoHBAJCBA
  gBEBCBABEBCBABEB1LBABEBCBABDCECz1B+DBADEBl0BBEBoHBDEECn2BlIBEDp2B5HnIBEBsCBEB/sBBEBqCBEBqCBEBqCB
  DBEBgEBDBEB+DBEB+DBABEBgCBEBgCBEBgCBEBgCBEBgCBEBgCBEBgCBEBgCBEBgCBEBgCBEBgCBEBgCBEBgCBEBgCBEBgCB
  EBgCBEBgCBDBEBgCBEBgCBEBgCBEBgCBEBgCBEBgCBEBgCBEBgCBEBgCBAWBBAMEBQBEB7BBEBxBBEBZBEBLBEBRBEBdBEBr
  BBABEBCBABEBCBABEBCBABEBCBABEBCBABEBCBABEBCBABEBCBABEBCBABEBCBABEBCBABEBCBABEBrDBEB/CBEB9CBABEB3
  DBEB/DBABEBCBABEBrDBEBCBACEBjIBEBjIBEBjIBEBgFBEBgFBEBgFBEBgFBEBgFBEBgFBEBgFBEBgFBEBgFBEBgFBEBgFB
  EBgFBEBgFBEBgFBEBgFBEBgFBEBgCBEBgCBEBgCBEBgCBEBgCBEBgCBEBgCBEBgCBEBgCBEBgCBEBgCBEBgCBEBgCBEBgCBE
  BgCBEBgCBEBgCBEBgCBEBgCBEBgCBEBgCBEBgCBEBgCBEBgCBEBgCBEBgCBEBgCBEBgCBEBgCBEBgCBEBgCBEBgCBAwBEBCB
  ABEBCBABEBCBABEBCBABEBCBABEBCBABEBCBABEBCBABEBCBABEBCBABEBCBABEBCBABEBCBABEBCBABEBCBABEBCBABEBCB
  AJEBCBABEBCBABEBCBABEBCBABEBCBABEBCBABEBCBABEBCBABEBCBABEBCBABEBCBABEBCBABEBCBABEBCBABEBCBABEBCB
  ABEBCBABEBCBABEBCBABEBCBABEBCBABEBCBABEBCBABEBCBABEBCBABEBCBABEBCBABEBeBEBCBABEBCBABEBCBABEBCBAB
  EBCBABEBCBABEBCBACEBCBABEBCBABEBCBABEBCBABEBCBABEBCBABEBCBABEBCBABEBCBABEBCBABEBCBABEBCBABEBCBAB
  EBCBABEBCBABEBCBABEBCBABEBCBABEBCBABEBCBABEBCBABEBCBABEBCBABEBCBABEBCBABEBCBABEBCBABEBCBABEBCBAB
  EBCBABEBCBABEBCBABEBCBABEBCBABEBCBABEBCBABEBCBABEBCBABEBCBABEBCBABEBCBABEBCBABEBCBABEBCBABEBCBAB
  EBCBABEBCBABEBCBABDBEBgDBEBgDBEBgDBEBgDBEBgDBEBgDBEBgDBEBgDBEBgDBEBgDBEBgDBEBgDBEBgDBEBgDBEBgDBE
  BgDBEBgDBEBgDBEBgDBEBgDBEBgDBEBgDBEBgDBEBgDBEBgDBEBgDBEBgDBEBgDBEBgDBEBgDBEBgDBEBgDBEBgDBEBgDBEB
  gDBEBgDBEBgDBEBgDBDCAuBECjCJBADDCADDBA3BDIAbDEAGDRAWDBA4CEC7EBBEC7CDBECgFFBEC7CHBAkDDBAwBDCA7BDC
  AlDDOA7BDCAxBDCAPDBAcDCABDBALDFAgBDHArCDBA1DEClE3BBEClE5BBEClE7BBEC9D9BBEC1D/BBEC1DhCBEClDjCBEC/
  ClCBAkBDBAIDCACDCAWDBAHDBABDDAEDCAJDCACDCAEDIABDEEC1D/BBEC1DhCBDBEC/ClCBAEDCAZDCADDBAGDEACDCAWDB
  AHDBABECBSBDBABECEMBDBACDCABDBAFDEACDCADDDABDHEClE5BBEClE7BBEC9D9BBABDBEClDjCBDHARDKADDBAJDBADDB
  AWDBAHDBACDBAFDCAKDBADDBADDCABDPAEDCAMDHAHDBADDBAIDCACDCAWDBAHDBACDBAFDCAJDCACDCADDHADDEEC1D/BBE
  C1DhCBDBAFDCASDKACDBAGDDADDBAEDDACDBABDBACDDACDDADDDAMDEAFDDADDBAEDCABDGABDOAVDFANDBADDBAXDBAQDC
  AJDBADDBAEDHACDBADDBACDCAEDCAKDHAWDBADDBAXDBAKDBAFDCAJDBADDBAEDHACDFADDBAEDCAKDBADDMANDBADDBAzBD
  BADDBAGDEAQDCAaDBADDBASDDAYDBAJDBABDCAHDDABDEAGDBABDBAIDGAKDCADDMAyBEC0BBBAHDEAdDlBACDBABDBAFDBA
  YDBABDBAMEC0BBBAKDCAFDBABDBAHDBAKDCEChDlEBECjD3DBACDgBAMEBBBA2BECBoHBAEDBAEECB0GBAEECBqGBAEECBgG
  BAEECB2FBAMECxC4EBADDEACECDBBABECHBBEC4DUBED2DLSBEC2DQBED0DPOBAHECfBBARECBoCBAEDBAEECB0BBAEECBqB
  BAEECBgBBAEECBWBAMECxCHBADDBAPDBANDlBAgFEBgmOBEBgmOBEBgmOBEBgmOBEBgmOBEBgmOBEBgmOBEBgmOBEBgmOBEB
  gmOBEBgmOBEBgmOBEBgmOBEBgmOBEBgmOBEBgmOBEBgmOBEBgmOBEBgmOBEBgmOBEBgmOBEBgmOBEBgmOBEBgmOBEBgmOBEB
  gmOBEBgmOBEBgmOBEBgmOBEBgmOBEBgmOBEBgmOBEBgmOBEBgmOBEBgmOBEBgmOBEBgmOBEBgmOBDBEBgmOBDFEBgmOBDCAs
  BEB/BBAiDCCAoHDBAEDCAHDBABDBAEDCApBDBAEDCAhBDBAEDCAHDBABDBAEDCAPDBA5BDBAEDCAjCDCAgBDDAaDGA2CDCEB
  PBEBPBEBPBEBPBEBPBEBPBDCAgUDBAcDDA5CDHAWDJAYDJAUDMANDBADDBACDMA0BCCAoBDCAKDGAKDGALCFAKDGA5CDHArB
  DFAmCDKAfDBAMDEAMDEABDDAqBDCAFDLAsBDEAaDGALDDA+BDCAhCDBAdDCALDGAKDGAODCAuBDCAMDUAtCDBAmFDIA8BDDA
  PDDAzBEB7kMBEB5kMBEBnkMBEBjkMBEBjkMCEB3jMBEBniMBEBm8kCBEBCBABDFEB/7FBEB/7FBEB/7FBEB/7FBEB/7FBEB/
  7FBEB/7FBEB/7FBEB/7FBEB/7FBEB/7FBEB/7FBEB/7FBEB/7FBEB/7FBEB/7FBEB/7FBEB/7FBEB/7FBEB/7FBEB/7FBEB/
  7FBEB/7FBEB/7FBEB/7FBEB/7FBEB/7FBEB/7FBEB/7FBEB/7FBEB/7FBEB/7FBEB/7FBEB/7FBEB/7FBEB/7FBEB/7FBEB/
  7FBEB/7FBEB/7FBEB/7FBEB/7FBEB/7FBDCEB/7FBEB/7FBEB/7FBAIDIArBDFAsBEB1sOBEBtkOBEB3sOBABEB3sOBEB3sO
  BEBp1NBEB3sOBEB3sOBEB3sOBEB3sOBEB3sOBEB3sOBEB3sOBEB3sOBABEB5sOBEBzxNBEB7sOBEB5sOBEB3sOBEB3sOBEB1
  sOBEBjuOBEBnvNBEBnvNBEBnEBEBpuOBEBnuOBEBnuOBEBhvNBEB/uNBEB/uNBEBruOBABEBnuOBEBluOBEBrgOBEBluOBEB
  9vNBEB7DBEB7DBEBruOBEBluOBEBluOBEB3DBEB1uNBEBpuOBEBtDBEB16MBEB16MBEB16MBEBz5MBEBz5MBEBxvOBEBhvOB
  EB9uOBEB9uOBEBn7MBEBn7MBEBt6MBEBl6MBEBl6MBANEB1zMBAiBEBx0NBEBxzOBEBv0NBEB7qOBEBl0NBEBzzOBEBj0NBE
  Bh0NBEB7zNBEB3zNBEB3zNBEB3zNBEB3CBEB1wNBEB3zNBEBpCBEB3wNBEB1zNBEB5zNBEB3zNBEB3zNBEB3zNBEB3zNBEBz
  zNBEBhzNBEBhzNBEBzgOBEB5yNBEB5yNBEB3JBEB7yNBEB7yNBEBh0OBEB3yNBEB3yNBEB3yNBEBtgNBAgCEBCBABEBCBABE
  BCBABEBCBABEBCBABEBCBABEBCBABEBCBABEBCBABEBCBABEBCBABEBCBABEBCBABEBCBABEBCBABEBCBABEBCBABEBCBABE
  BCBABEBCBABEBCBABEBCBABEBCBABEBCBABEBCBABEBCBABEBCBABEBCBABEBCBABEBCBABEBCBABEBCBABEBCBABEBCBABE
  BCBABEBCBABEBCBABEBCBABEBCBABEBCBABEBCBABEBCBABEBCBABEBCBABEBCBABEBCBABEBCBABEBCBABEBCBABEBCBABE
  BCBABEBCBABEBCBABEBCBABEBCBABEBCBABEBCBABEBCBABEBCBABEBCBABEBCBABEBCBABEBCBABEBCBABEBCBABEBCBABE
  BCBABEBCBABEBCBABEBCBABEBCBABEBCBABEBCBABEBCBABEBCBAFECxjP39NBEBzDBACEB97OBABEBCBABEBCBABEBCBABE
  BCBABEBCBABEBCBABEBCBABEBCBABEBCBABEBCBABEBCBABEBCBABEBCBABEBCBABEBCBABEBCBABEBCBABEBCBABEBCBABE
  BCBABEBCBABEBCBABEBCBABEBCBABEBCBABEBCBABEBCBABEBCBABEBCBABEBCBABEBCBABEBCBABEBCBABEBCBABEBCBABE
  BCBABEBCBABEBCBABEBCBABEBCBABEBCBABEBCBABEBCBABEBCBABEBCBABEBCBABEBCBABEBCBAJEBPBEBPBEBPBEBPBEBP
  BEBPBEBPBEBPBAGDCEBPBEBPBEBPBEBPBEBPBEBPBDCAIEBPBEBPBEBPBEBPBEBPBEBPBEBPBEBPBAIEBPBEBPBEBPBEBPBE
  BPBEBPBEBPBEBPBAGDCEBPBEBPBEBPBEBPBEBPBEBPBDCAIDBEBPBDBEBPBDBEBPBDBEBPBAIEBPBEBPBEBPBEBPBEBPBEBP
  BEBPBEBPBABEBp8NBABEBr8NBABEBt8NBABEBv8NBABEB56NBABEB76NBABEB96NBDCEC/Ht8NBEC/Hv8NBEC/Hx8NBEC/Hz
  8NBEC/H18NBEC/H38NBEC/H58NBEC/H78NBECvI98NBECvI/8NBECvIh9NBECvIj9NBECvIl9NBECvIn9NBECvIp9NBECvIr
  9NBEC/Gt9NBEC/Gv9NBEC/Gx9NBEC/Gz9NBEC/G19NBEC/G39NBEC/G59NBEC/G79NBECvH99NBECvH/9NBECvHh+NBECvHj
  +NBECvHl+NBECvHn+NBECvHp+NBECvHr+NBEC/Dt+NBEC/Dv+NBEC/Dx+NBEC/Dz+NBEC/D1+NBEC/D3+NBEC/D5+NBEC/D7
  +NBECvE9+NBECvE/+NBECvEh/NBECvEj/NBECvEl/NBECvEn/NBECvEp/NBECvEr/NBACECjEx/NBECjgOz/NBECvgO1/NBD
  BABECB7/NBEBPBEBPBEBzEBEB9gOBEC1gOlgOBEC55PzqOBEBpgOBEC95P3qOBEC/5P7nOBEDh6PxrO9nOBEC7ExgOBEC3gO
  zgOBECrhO1gOBDBABECB7gOBEBrFBEB3hOBEBrFBEB5hOBECphOlhOBED56PzrO5sOBED76P1rO5sOBED96P3rO5oOBADEBl
  kOBDCACEBPBEBPBEBnGBEB3iOBDBED57PxsO5tOBED77PzsO5tOBED97P1sO5pOBADEBljOBAEEBPBEBPBEB/GBEB7hOBEBN
  BED58PpuO5uOBED78PruO5uOBEB94PBDCECrHxjOBECziOzjOBECriO1jOBDBABECB7jOBEB/HBEB5iOBEB7HBEB5iOBEClj
  OlkOBEC59P3vOBEC79PzuOBDBEB/9PLCBBCDCABEBBBAFECt/PnuOBAMDDABDHEB9gQBADECBBBEDDDDBABECBBBEDDDDBAE
  EC1hQ1hQBABEC7hQxzOBAIECvgQvgQBECxgQtiQBECviQzgQBANEEpCpCpCpCBAHEB9jQBCFDFCGEB/jQBEBvgQBDCEB/jQB
  EB/jQBEB/jQBEB/jQBEB/jQBEB/jQBEB9kQBEBuZBEB9jQBEBplQBEBplQBEBhhQBEB/kQBEB/kQBEB/kQBEB/kQBEB/kQBE
  B/kQBEB/kQBEB/kQBEB/kQBEB/kQBEB9lQBEBuYBEB9kQBEBpmQBEBpmQBDBEB9iQBEB3iQBEBliQBEB1hQBEB1jPBEB5iQB
  EB1iQBEB1iQBEB1iQBEB1iQBEBziQBEBviQBEBviQBDDAIECrjQpjQBAZDOAhBDPED9pQhtQ5pQBED/pQjtQ7oQBEB9pQBEC
  llQ/pQBABEDjqQrtQrpQBEDlqQttQhpQBEB3qPBABECxlQlqQBEBlqQBEBlqQEEBv+PBEBtqQCEBrqQCABEBtqQBECvqQtqQ
  BACEBxqQBEBxqQBEBxqQDACEC5qQlrQBED5qQ3rQprQBEC7qQprQBABEBzqQBABEB51OBABEB7qQBABEB9rQBEBrkQBEBzsQ
  BEBzsQBABEBzsQCEB1sQBEB4BBEBrsQBEBpsQBEBp2NBEBp2NBEBp2NBEBp2NBEB/sQBABEDptQztQlsQBEB33OBEBz4OCEB
  93OBEBiNBAEEBhuQCEBjuQBEB9tQBEB9tQBAGED9xQ3QxxQBED/xQ5QvxQBEEhyQ7QhyQjyQBEDjyQ9Q/xQBEDjyQ/QhyQBE
  DnyQhR/xQBEDnyQjRhyQBEDnyQlRjyQBEDnyQnRlyQBEDvyQpRlyQBEDpyQrRnyQBEDzyQtRlyQBEDxyQvRnyQBEDvyQxRpy
  QBEDtyQzRryQBEC7yQ1RBEBtvQBECvvQvvQBEDxvQxvQxvQBECzvQ5uQBEB7uQBEC9uQ3vQBED/uQ5vQ5vQBEEhvQ7vQ7vQ7
  vQBEC9vQ/uQBEBhvQBECjvQhwQBEDlvQjwQjwQBEB/vQBEBzwQBEBzwQBEBjwQBEBtwQBECvwQvwQBEDxwQxwQxwQBECzwQ5
  vQBEB7vQBEC9vQ3wQBED/vQ5wQ5wQBEEhwQ7wQ7wQ7wQBEC9wQ/vQBEBhwQBECjwQhxQBEDlwQjxQjxQBEB/wQBEBzxQBEBz
  xQBEBjxQBADEBCBAFEDx1QpUr1QBACDEA8EECBBBEDDDDBABECBBBEDDDDBA4HEB+tGBEB+tGBA/HDWALDVEB9iSBEB9iSBE
  B9iSBEB9iSBEB9iSBEB9iSBEB9iSBEB9iSBEB9iSBECvjSxjSBECxjSxjSBECzjSxjSBEC1jSxjSBEC3jSxjSBEC5jSxjSBE
  C7jSxjSBEC9jSxjSBEC/jSxjSBEChkSxjSBEChkSlkSBED3kSlkS1kSBED5kSlkS3kSBED7kSlkS5kSBED9kSlkS7kSBED/k
  SlkS9kSBEDhlSlkS/kSBEDjlSlkShlSBEDllSlkSjlSBEDnlSlkSllSBEEplS3kS5kSnlSBEErlS5kS5kSplSBEEtlS7kS5k
  SrlSBEEvlS9kS5kStlSBEExlS/kS5kSvlSBEEzlShlS5kSxlSBEE1lSjlS5kSzlSBEE3lSllS5kS1lSBEE5lSnlS5kS3lSBE
  E7lSplS5kS5lSBEE9lSplStlS7lSBDUEDnnS1jSlnSBEDpnS1jSnnSBEDrnS1jSpnSBEDtnS1jSrnSBEDvnS1jStnSBEDxnS
  1jSvnSBEDznS1jSxnSBED1nS1jSznSBED3nS1jS1nSBED5nS1jS3nSBED7nS1jS5nSBED9nS1jS7nSBED/nS1jS9nSBEDhoS
  1jS/nSBEDjoS1jShoSBEDloS1jSjoSBEDnoS1jSloSBEDpoS1jSnoSBEDroS1jSpoSBEDtoS1jSroSBEDvoS1jStoSBEDxoS
  1jSvoSBEDzoS1jSxoSBED1oS1jSzoSBED3oS1jS1oSBED5oS1jS3oSBEBplSBEBplSBEBplSBEBplSBEBplSBEBplSBEBplS
  BEBplSBEBplSBEBplSBEBplSBEBplSBEBplSBEBplSBEBplSBEBplSBEBplSBEBplSBEBplSBEBplSBEBplSBEBplSBEBplS
  BEBplSBEBplSBEBplSBEB9mSBEB9mSBEB9mSBEB9mSBEB9mSBEB9mSBEB9mSBEB9mSBEB9mSBEB9mSBEB9mSBEB9mSBEB9mS
  BEB9mSBEB9mSBEB9mSBEB9mSBEB9mSBEB9mSBEB9mSBEB9mSBEB9mSBEB9mSBEB9mSBEB9mSBEB9mSBEBzrSBAhpBEEh+Dh+
  Dh+Dh+DBAnDEDzjVzjVtjVBECvjVvjVBEDxjVxjVxjVBAlDECCn6TBA3EDCAqEEBgDBEBgDBEBgDBEBgDBEBgDBEBgDBEBgD
  BEBgDBEBgDBEBgDBEBgDBEBgDBEBgDBEBgDBEBgDBEBgDBEBgDBEBgDBEBgDBEBgDBEBgDBEBgDBEBgDBEBgDBEBgDBEBgDB
  EBgDBEBgDBEBgDBEBgDBEBgDBEBgDBEBgDBEBgDBEBgDBEBgDBEBgDBEBgDBEBgDBEBgDBEBgDBEBgDBEBgDBEBgDBEBgDBE
  BgDBEBgDBEBgDBAwBEBCBABEBt/UBEBruHBEBt+UBACEBCBABEBCBABEBCBABEB3hVBEB5/UBEB9hVBEB7hVBABEBCBACEBC
  BAGEBjhWBEBtgWBEB9jVBEB9jVBEBCBABEBCBABEBCBABEBCBABEBCBABEBCBABEBCBABEBCBABEBCBABEBCBABEBCBABEBC
  BABEBCBABEBCBABEBCBABEBCBABEBCBABEBCBABEBCBABEBCBABEBCBABEBCBABEBCBABEBCBABEBCBABEBCBABEBCBABEBC
  BABEBCBABEBCBABEBCBABEBCBABEBCBABEBCBABEBCBABEBCBABEBCBABEBCBABEBCBABEBCBABEBCBABEBCBABEBCBABEBC
  BABEBCBABEBCBABEBCBABEBCBABEBCBABEBCBAIEBCBABEBCBAEEBCBABDFAtBDBABDFABDCA4BDHEBbBABDOAYDJAHDBAHD
  BAHDBAHDBAHDBAHDBAHDBAHDBA+DDiBAaDBAEEB8yeBAzCEB4q4BBDMEBgwPBEBuyPBEBozPBEB4zPBEBq1PBEBg4PBEBs4P
  BEBy5PBEBk7PBEBsjRBEB2lRBEBgmRBEBsnRBEByoRBEB6pRBEBitRBEBquRBEB+uRBEBy4RBEBs+RBEBigSBEBqgSBEBkiS
  BEB0iSBEBokSBEBglSBEBwmSBEB2pSBEB4qSBEBssSBEBy7TBEBggUBEB28UBEBi+UBEBw+UBEBk/UBEBmgVBEB8kVBEB0iW
  BEBylWBEBgtWBEBsuWBEBwvWBEB6wWBEBk0WBEBo0WBEB6qXBEBsrXBEBisXBEB6sXBEBg0XBEBu0XBEB20XBEB+7XBEBw8X
  BEBo9XBEB29XBEBuhYBEBuiYBEBwjYBEBuoYBEB2sZBEBwvZBEB4wZBEB++aBEBm/aBEBqkbBEBolbBEBgmbBEBonbBEB0pb
  BEB8pbBEBw6bBEB+7bBEB89bBEBq9dBEBsheBEB4ieBEBqmeBEB4neBEBooeBEB0oeBEB6reBEBiseBEBgueBEBsxgBBEBot
  hBBEB+thBBEBmuhBBEBsuhBBEB6uhBBEB8vhBBEB+vhBBEB+0hBBEBsiiBBEB0iiBBEB43iBBEBq4iBBEBs7iBBEB47iBBEB
  o8iBBEB28iBBEBqijBBEB2ijBBEB8wjBBEBoxjBBEBo0jBBEBo1jBBEBk4jBBEB8mkBBEBonkBBEBookBBEB08kBBEBuklBB
  EB4klBBEBiwlBBEBu1lBBEBo4lBBEB6vmBBEBi4mBBEB87nBBEBw9nBBEBghoBBEBkkoBBEBqooBBEB+ooBBEBopoBBEBoro
  BBEB+voBBEBwwoBBEBimpBBEBumpBBEB+mpBBEBunpBBEBsopBBEBoppBBEBuppBBEBqupBBEBwupBBEB6upBBEBisrBBEB8
  trBBEBkrsBBEB6rsBBEBmtsBBEB6+sBBEBy/sBBEB+jtBBEB4mtBBEBkquBBEBgruBBEB8ruBBEBguuBBEBowuBBEB08uBBE
  Bq9uBBEBuhvBBEB8wvBBEB4yvBBEB4/vBBEBghwBBEBohwBBEB+uwBBEBs6wBBEBkixBBEBuixBBEB2ixBBEBg9yBBEBw9yB
  BEBmnzBBEB4wzBBEB8wzBBEB4zzBBEBo6zBBEBg7zBBEBm7zBBEBy7zBBEB0h0BBEB2j0BBEBgk0BBEB6k0BBEBmv0BBEBqy
  0BBEBwy0BBEB890BBEBg+0BBEBk/0BBEB6u1BBEB4x1BBEBky1BBEBu21BBEBg31BBEBk31BBEB231BBEBw51BBEBky2BBEB
  ir3BBEB0r3BBEB+t3BBEBov3BBEB2v3BBEBow3BBEBuw3BBEB8y3BBEBiz3BBEBi03BBEBq03BBEBi13BBEB223BBEBy33BB
  EBg43BBEB073BBEBw83BBEB283BBDqBEB/9XBABEBn9XBAzBEBnCBABEBywRBEB2wRBEB2wRBAFDBA2CDCACEC1nYDBEC3nY
  DBACECtBpBBA/CEC3EtDBDFArBDBEBhjQBEBhjQBEBx4PBEBjjQBEBx4PBEBx4PBEBnjQBEBnjQBEBnjQBEBz4PBEBz4PBEB
  z4PBEBz4PBEBz4PBEBz4PBEBriQBEB1jQBEB1jQBEB1jQBEBliQBEB3jQBEB3jQBEB3jQBEB3jQBEB3jQBEB3jQBEB3jQBEB
  3jQBEB3jQBEB3jQBEB7+PBEB7+PBEB7+PBEB7+PBEB7+PBEB7+PBEB7+PBEB7+PBEB7+PBEB7+PBEB7+PBEB7+PBEB7+PBEB
  7+PBEB7+PBEB7+PBEB7+PBEB7+PBEB7+PBEB7+PBEB7+PBCBEBhlQBEBhlQBEB/5PBEB/5PBEB55PBEB35PBEBv5PBEBp5PB
  EBn5PBEBjlQBEBj5PBEBh5PBEBnlQBEBnlQBEBllQBEBjlQBEBjlQBEB9kQBEB7kQBEB5kQBEB5kQBEB5kQBEB5kQBEB5kQB
  EB1kQBEBvkQBEB9jQBEBxjQBEBpjQBEBh5PBEBh5PBEB5iQBEB5iQBEB5iQBEBlgQBEBlgQBEBhgQBEBx/PBEBx/PBEBv/PB
  EB9+PBEB5+PBDBACEB8mOBEByvOBEBqnOBEBs0SBEBonOBEBspOBEBmnOBEBy5hBBEB+rOBEB8nOBEBqmOBEB44TBEBk5SBE
  B2xOBAmCDKAQEDv9Y/vQt9YBEDx9Y9vQv9YBEDz9Y9vQx9YBED19Y7vQz9YBED39Y7vQ19YBED59Y7vQ39YBED79Y5vQ59YB
  ED99Y3vQ79YBED/9Y3vQ99YBEDh+Y1vQ/9YBEDj+Y1vQh+YBEDl+Y1vQj+YBEDn+Y1vQl+YBEDp+Y1vQn+YBEDr+Yk/8Bp+Y
  BEDt+Yyo/Br+YBEDv+YotgCt+YBEDx+Y22iCv+YBEDz+Ys7jCx+YBED1+YiglCz+YBED3+YwpnC1+YBED5+Y+ypC3+YBED7+
  Y03qC5+YBED9+YihtC7+YBED/+Y4luC9+YBEDh/YuqvC/+YBEDj/YkvwCh/YBEDl/Y6zxCj/YBEDn/YgurCl/YBEEp/YugqC
  u+qCn/YBEEr/YsgqCsqyCp/YBDBEDv/Yg+Nt/YBEDx/Y2mOv/YBEDz/Yu+Nx/YBED1/YwrSz/YBED3/YgnO1/YBED5/Yw0P3
  /YBED7/Y69N5/YBED9/Yo0P7/YBED//YqjO9/YBEDhgZwxQ//YBEDjgZ8tahgZBEDlgZgkfjgZBEDngZwgdlgZBEDpgZ2van
  gZBEDrgZm6vBpgZBEDtgZgvSrgZBEDvgZq7ZtgZBEDxgZy/avgZBEDzgZutaxgZBED1gZ2wjBzgZBED3gZy9Q1gZBED5gZok
  gB3gZBED7gZ2mtB5gZBED9gZsyjB7gZBED/gZ4nQ9gZBEDhhZ0qO/gZBEDjhZkkRhhZBEDlhZ2yUjhZBEDnhZuqiBlhZBEDp
  hZosOnhZBEDrhZyotBphZBEDthZqxQrhZBEDvhZ6yjBthZBEDxhZgtOvhZBEDzhZw6nBxhZBED1hZg7nBzhZBEB2wRBEBujW
  BEBi0ZBEBw0kBBAIED/9Y39Y1+YBEC9hZ/hZBEC/hZ/hZBEChiZ/hZBECjiZ/hZBECliZ/hZBECniZ/hZBECpiZ/hZBECriZ
  /hZBECtiZ/hZBECtiZziZBECviZziZBECxiZziZBECziZziZBEC1iZziZBEC3iZziZBEB/1QBEB91QBEB91QBEB71QBEB71Q
  BEB71QBEB51QBEB31QBEB31QBEB11QBEB11QBEB11QBEB11QBEB11QBEBk58BBEByi/BBEBongCBEB2wiCBEBs1jCBEBi6kC
  BEBwjnCBEB+spCBEB0xqCBEBi7sCBEB4/tCBEBukvCBEBkpwCBEB6txCBEC47sCom9BBEC+nrC2tqCBEBkjqCBABEBg4NBEB
  2gOBEBu4NBEBwlSBEBghOBEBwuPBEB63NBEBouPBEBq9NBEBwrQBEB8naBEBg+eBEBw6cBEB2paBEBm0vBBEBgpSBEBq1ZBE
  By5aBEBunaBEB2qjBBEBy3QBEBo+fBEB2gtBBEBssjBBEB4hQBEB+zjBBEB6phBBEBwtTBEB68uBBEB6oPBEBktQBEBykdBE
  Bq2yBBEBgnOBEBuvPBEBgscBEBs2NBEBw4NBEBq2NBEB+zVBEB20QBEBkpQBEB6uUBEB2rUBEBujiBBEBolOBEByhtBBEBqq
  QBEB4mTBEC7nZ1nZBEC9nZ1nZBEC/nZ1nZBEChoZ1nZBEChoZpoZBECjoZpoZBECloZpoZBECnoZpoZBECpoZpoZBECroZpo
  ZBECtoZpoZBECvoZpoZBECxoZpoZBECzoZpoZBECzoZ9oZBEC9oZwkaBEC9oZukaBEC9oZskaBEC9oZqkaBEC9oZokaBEC9o
  ZmkaBEC9oZkkaBEC9oZikaBEC9oZgkaBEDvpZxpZ+jaBEDxpZxpZ8jaBEDzpZxpZ6jaBECnmZpmZBEDvmZ1lZrmZBECxmZvl
  ZBEDlmZ1lZ1mZBEB7iBBEB5iBBEB3iBBEB1iBBEBziBBEBziBBEBxiBBEBviBBEBtiBBEBriBBEBpiBBEBniBBEBliBBEBji
  BBEBhiBBEB/hBBEB9hBBEB5hBBEB3hBBEB1hBBEBzhBBEBzhBBEBzhBBEBzhBBEBzhBBEBzhBBEBvhBBEBrhBBEBnhBBEBjh
  BBEB/gBBEB/gBBEB/gBBEB/gBBEB/gBBEB9gBBEB7gBBEB5gBBEB5gBBEB5gBBEB5gBBEB5gBBEB5gBBEB3gBBEB3gBBEB3g
  BBEB3gBBECq+N64QBEE7lB9iBngBvjBBEE9lBrhB3iB/lBBEE/lB9gBviB/lBBEDhmBtgBvhBBEE/lBxjBhhBnlBBEDhmBjh
  BnkBBED/lB5lBlhBBEF9lB7kBvlB1gB7jBBEE/lB3gB5lB3gBBED9lBrhB/kBBED/lB7gBziBBED/lBtmBhiBBEEhmBliBxk
  BnkBBEEjmB/hBliBhhBBEDjmBhiB1hBBEDlmB3hBhjBBECjmBnmBBEDlmBrkBphBBEEpmB5iBviBrhBBEEpmBviBllBthBBE
  CtmBtiBBEFvmBviBpmB3iBpjBBEGxmBxiBpjBzhB7kB1iBBEFzmBziBviBnlB9kBBEDvmB9iBvjBBEFxmB/iBxjBhlBriBBE
  F1mB9iB7lBrnB5iBBEE3mB7iB9hB7kBBED1mB/hBlmBBEDzmBjjBllBBED1mBjiBhkBBEEzmB1nB/mBnjBBEF1mB5iB9lBni
  B/jBBEEzmBtjB7iBhnBBEDtmB9iBhmBBEDvmB/iB1lBBEDnmBviB1mBBEC7lB7mBBEC5lB1jBBEC9lBnjBBEC7lBzlBBED1l
  BrmBhmBBED1lBroBrmBBEFzlB9iB/mBvjBlmBBED1lB/iBvmBBEE5lBhjBhkBjkBBEFzlB3oBpnBrmBlkBBED1lB/nBnkBBE
  C3lB5nBBEC7lBrkBBEF5lBhpBxkB9mBxmBBEE7lB/oBtjB1mBBEF7lBhnB5nB5oBxkBBED/lB3kBjkBBEF7lBtoBtnBzjB1k
  BBEC5lBznBBED7lB5mBrmBBEDhmB7kBpnBBED/lBtkBhoBBEDhmB9jBloBBEDlmB/jB5nBBEE/lBxpBzkBpnBBEDjmBllBrn
  BBECnmB3kBBEDlmB5kBtnBBEDrmBpkBrlBBEDtmBrkB9kBBEEpmB9pBnpBrlBBEDrmB/pBxlBBEDtmBjoBrnBBEDvmB1lBtp
  BBEFxmBnlB/oB/lBnlBBEExmBxpB1lBplBBECzmB9lBBEF1mB/lBznB7kB9lBBECzmB9pBBEE1mB/pBnoBxlBBEE3mBhlBpo
  BjmBBEDzmBjlBpoBBED1mBllBnmBBEDzmB7qB5lBBEEtmB7oBxoBrmBBECvmBxmBBEDvmB9nBtlBBEExmBvlB7nBxmBBECxm
  BpnBBEFzmBlmB7oBnqBlmBBEDvmBnpB9oBBECvyZi2eBECvyZg2eBECvyZ+1eBECvyZ81eBECvyZ61eBECvyZ41eBECvyZ21
  eBECvyZ01eBECvyZy1eBECvyZw1eBEDhzZjzZu1eBEDjzZjzZs1eBEDlzZjzZq1eBEDnzZjzZo1eBEDpzZjzZm1eBEDrzZjz
  Zk1eBEDtzZjzZi1eBEDvzZjzZg1eBEDxzZjzZ+0eBEDzzZjzZ80eBEDzzZ3zZ60eBED1zZ3zZ40eBED3zZ3zZ20eBED5zZ3z
  Z00eBED7zZ3zZy0eBEDxwZhwZ/wZBEC7wZhxZBECjxZ7vZBEDjxZlxZjwZBECrwZ9vZBECrwZlxZBEClxZzwZBEDnxZ1wZr0
  ZBEDpxZ3wZr0ZBEChxZpwZBECwvVqpXBECirZgxQBEC06Ss+bBECgpZ6zcBEE2qag5V25N+7iBBEC/wZ9xZBEClxZ/xZBECr
  8XhyZBECrxZjyZBECxxZlyZBECzxZlyZBECxxZnyZBEC/xZpyZBEDpyZtyZ3xZBEE7xZryZvyZ5xZBECzxZnyZBEC5xZpyZB
  EC/8XryZBECh9XryZBEChyZtyZBECnyZvyZBECvyZrxZBEDryZxyZtxZBEDpyZzyZvxZBED3yZ1yZxxZBED/xZ3yZzxZBECx
  9XxyZBECxyZzyZBEClzZ1yZBEC5yZ3yZBEClzZ3yZBEC3yZ5yZBEC99X7yZBEC9yZ9yZBECzzZ/yZBEClzZhzZBEDjzZjzZ5
  2ZBED5zZlzZ72ZBECnzZ92ZBEDtzZpzZ/2ZBEDrzZrzZ/2ZBEDh0ZtzZh3ZBECvzZj3ZBED1zZxzZl3ZBEDzzZj5InzZBEE1
  zZl5IpzZr3ZBECxzZv0ZBED9zZzzZx0ZBED7zZ1zZz0ZBEDp0Z3zZ10ZBED1zZ30Zx0ZBEF3zZ50Zz0Zx5I1zZBEG5zZ70Z1
  0Zz5I3zZ53ZBEC/zZ5zZBECl0Z7zZBECr/X9zZBECr0Z/zZBECn0Z7zZBECt0Z9zZBECz/X/zZBECz0Zh0ZBEC50Zj0ZBEC3
  0Zl0ZBECz0Zl0ZBEC50Zn0ZBEC//Xp0ZBEC/0Zr0ZBECl1Zt0ZBECj1Zv0ZBECp1Zt/XBECn1Zv/XBDBECh2Zj1ZBECh2Zh2
  ZBECj2Zh2ZBEEl2Zh7I11Z91ZBDBECn2Zr2ZBECj2Z/0ZBECj2Zx2ZBECl2Z11ZBECl2Z71ZBECj2Zj2ZBECl2Zh2ZBECn2Z
  11ZBECn2Zl2ZBECp2Zl2ZBEDr2Zl2Z12ZBECt2Z11ZBECt2Zj3ZBEDv2Z32Zx2ZBEDx2Zt2Zz2ZBECt2Z92ZBDBEDx2Zx2Z3
  2ZBECz2Zv2ZBECv2Zx2ZBECx2Zr2ZBECr2Z13ZBEDv2Zx8Ih3ZBED73Zz8Ij3ZBEC96ZqgZBEC96ZogZBEC96ZmgZBEC96Zk
  gZBEC96ZigZBEC96ZggZBEC96Z+/YBEC96Z8/YBEC96Z6/YBEDv7Zx7Z4/YBEDx7Zx7Z2/YBEDz7Zx7Z0/YBED17Zx7Zy/YB
  ED37Zx7Zw/YBED57Zx7Zu/YBED77Zx7Zs/YBED97Zx7Zq/YBED/7Zx7Zo/YBEDh8Zx7Zm/YBEDh8Zl8Zk/YBEDj8Zl8Zi/YB
  EDl8Zl8Zg/YBEDn8Zl8Z++YBEDp8Zl8Z8+YBEDr8Zl8Z6+YBEDt8Zl8Z4+YBEDv8Zl8Z2+YBEDx8Zl8Z0+YBEDz8Zl8Zy+YB
  EDz8Z58Zw+YBED18Z58Zu+YBEDv5Z75Zl5ZBAtkcDDA3BDJA8KDUEBCBABEBCBABEBCBABEBCBABEBCBABEBCBABEBCBABEB
  CBABEBCBABEBCBABEBCBABEBCBABEBCBABEBCBABEBCBABEBCBABEBCBABEBCBABEBCBABEBCBABEBCBABEBCBABEBCBATEB
  CBABEBCBABEBCBABEBCBABEBCBABEBCBABEBCBABEBCBABEBCBABEBCBABEBCBABEBCBABEBCBABEBCBABEBjlxCBEBhlxCB
  A6CDIAiBEBCBABEBCBABEBCBABEBCBABEBCBABEBCBABEBCBADEBCBABEBCBABEBCBABEBCBABEBCBABEBCBABEBCBABEBCB
  ABEBCBABEBCBABEBCBABEBCBABEBCBABEBCBABEBCBABEBCBABEBCBABEBCBABEBCBABEBCBABEBCBABEBCBABEBCBABEBCB
  ABEBCBABEBCBABEBCBABEBCBABEBCBABEBCBABEBCBABEBBBAIEBCBABEBCBABEBnglCBEBCBABEBCBABEBCBABEBCBABEBC
  BAEEBCBABEBvyyCBACEBCBABEBCBADEBCBABEBCBABEBCBABEBCBABEBCBABEBCBABEBCBABEBCBABEBCBABEBCBABEBn0yC
  BEB90yCBEB10yCBEBh0yCBEBn0yCBABEBjxyCBEBzyyCBEBpxyCBEBg6BBEBCBABEBCBABEBCBABEBCBABEBCBABEBCBABEB
  CBABEBCBABEB/CBEBl0yCBEBvjlCBEBCBABEBCBABEBt2yCBEBCBABEBCBABEBCBABEBCBABEBCBABEBCBABEBCBABEBCBAB
  EBhkzCBDUEB73zCBEB94zCBEB54zCBEBl4zCBEBCBACEBhtzCBEBrqzCBAzBDDAKDGA4BDIAmCDIAMDGA0DDLAeDDAuCDBAL
  DEAhBDBA3BDJAODCAKDCAnDDYAcDKAGDCAGDCAGDJAHDBAHDBAsBEBpjCBEBrCBEBlv0CBEBZBAJEB3t0CBACDEEB/8rCBEB
  /8rCBEB/8rCBEB/8rCBEB/8rCBEB/8rCBEB/8rCBEB/8rCBEB/8rCBEB/8rCBEB/8rCBEB/8rCBEB/8rCBEB/8rCBEB/8rCB
  EB/8rCBEB/8rCBEB/8rCBEB/8rCBEB/8rCBEB/8rCBEB/8rCBEB/8rCBEB/8rCBEB/8rCBEB/8rCBEB/8rCBEB/8rCBEB/8r
  CBEB/8rCBEB/8rCBEB/8rCBEB/8rCBEB/8rCBEB/8rCBEB/8rCBEB/8rCBEB/8rCBEB/8rCBEB/8rCBEB/8rCBEB/8rCBEB/
  8rCBEB/8rCBEB/8rCBEB/8rCBEB/8rCBEB/8rCBEB/8rCBEB/8rCBEB/8rCBEB/8rCBEB/8rCBEB/8rCBEB/8rCBEB/8rCBE
  B/8rCBEB/8rCBEB/8rCBEB/8rCBEB/8rCBEB/8rCBEB/8rCBEB/8rCBEB/8rCBEB/8rCBEB/8rCBEB/8rCBEB/8rCBEB/8rC
  BEB/8rCBEB/8rCBEB/8rCBEB/8rCBEB/8rCBEB/8rCBEB/8rCBEB/8rCBEB/8rCBEB/8rCBAuBDCAKDGAk9KDMAXDEAxBDko
  IEBvr2BBEB5gpCBEBvj1BBEB1j2BBEBljlCBEBlt1CBEBhyyCBEB12sBCEBv7vCBEBxzzBBEBn4xCBEBn8vCBEBtxrCBEBpq
  hCBEBz48BBEBht5BBEBt14BBEBzh4BBEBno0BBEBjxnCBEBz/lCBEB5jkCBEBxziCBEB1t6BBEB96zBBEBxyvBBEBxp1CBEB
  t6yCBEBxhnCBEBlwjCBEBjv5BBEBjwtBBEBh9tCBEBtzkCBEBr15BBEB/73BBEB3lrCBEB707BBEBvw4BBEB7ltCBEBjhpCB
  EB/7lCBEB9ijCBEB7l0BBEBt60CBEBt3zCBEBhlzCBEB3mqCBEB7lnCBEBjyjCBEB3khCBEBlz8BBEB9y5BBEBzt5BBEBv01
  BBEBrgxBBEBz8uBBEB/ztBBEB9qgCBEB57/BBEB559BBEBp36BBEB1jzBBEBhstBBEB1m3BBEBlmwCBEB9jtCBEBnu+BBEBt
  s8BBEBnujCBEB5ngCBEBro2BBEBjlxBBEBjnwCBEBxuuCBEBxznCBEBl3lCBEB9jlCBEB/h+BBEBxx9BBEBrwxBBEB/nzCBE
  Bvs8BBEBv3zCBEBx4zCBEBzz/BBEBx59BBEBt26BBEBnuxBBEBz92BBEB3orCBEBz1nCBEB9l3BBEBpy1CBEBv3uCBEB70sC
  BEBz9iCBEBj/hCBEB3kzCBEBxmgCBEBr60CBEB57sCBEBz11CBEB3pmCBEBh/pCBEBvk+BBEBv6yCBEB7wwCBEB3mhCBEBpy
  6BBEBps3BBEBr7mCBEBh80BBEBzumCBEBpnrCBEB9o7BBEBp9qCBEBhhiCBEBxs1CBEB9g0CBEB/6zCBEBxvoCBEBnp+BBEB
  5w7BBEB1q3BBEB96zBBEBzozCBEB7zyCBEB7gwCBEBrptCBEB77pCBEBr4kCBEB1lgCBEBx9xBBEB5xvBBEBhvtBBEB1rtBB
  EB9uzCBEBpspCBEBphnCBEB1i1BBEBzxtCBEB9/rCBEB/4rCBEBtvqCBEB9mlCBEBzkkCBEB1wiCBEB18/BBEBj69BBEBvy8
  BBEBjn1BBEB1q6BBEBt30BBEBhlzBBEBp4zCBEBzvzCBEBhuyCBEBttkCBEB7t4BBEBtv3BBEBxttCBEB76sCBEBxirCBEBt
  /mCBEBv2+BBEBjjjCBEBns1CBEB/qxCBEBl8uCBEBh/tCBEB/4sCBEB1/iCBEBp0iCBEBph9BBEBz28BBEB53zBBEB3rxBBE
  B1mxBBEB35wBBEBzi1CBEBvggCBEBlg0BBEB/vxBBEBvtsCBEBnz1CBEBhu0CBEB78uCBEB73uCBEBpiqCBEB57nCBEBj/jC
  BEB93hCBEBrs6BBEBt00BBEBtjtBBEB5zpCBEBv5xBBEB7zzCBEB5kpCBEBr9oCBEBxomCBEB9ylCBEBl8iCBEBnniCBEBl2
  gCBEB9r+BBEBj3wBBEBnm0CBEBn6rCBEB11xBBEBx60CBEB3ruCBEB3+lCBEB5q1BBEB5ktCBEBppsCBEBl8oCBEBnljCBEB
  r1xBBEBn7zCBEB98yCBEBz3uCBEB58pCBEBlppCBEBzzoCBEB7vmCBEB79iCBEBlgiCBEB5m9BBEBvx4BBEBtw4BBEB5h0BB
  EBvwxBBEB3qzCBEBjzlCBEB/8yCBEB7hkCBEBt1iCBEBr/5BBEB70xBBEB15uBBEBn1tBBEB5lpCBEBzimCBEB7g8BBEB3y/
  BBEBvt/BBEBt2+BBEBzzjCBEBj2kCBEBnq3BBEB5z1CBEBvs7BBEBp8zCBEBx/zCBEB11tCBEB9yrCBEB5y+BBEB9nvCBEBt
  umCBEBj1pCBEB3s1BBEB374BBEB37xBBEB9n4BBEBvztCBEB3s0CBEB5kyCBACEBr7wCBABEB75pCBACEBtj0CBEB3ujCBEB
  50hCBEB3tgCBEB1rgCBEBprgCBEB3ogCBEBrsxBBEB91+BBEBhm9BBABEB7g6BBABEBzy3BBACEB5+0BBEBxy0BBADEB1zwB
  BEB9ywBBEBnwwBBEBxnuBBEB/00BBEBv3xBBEBjo1CBEBz00CBEBpu0CBEBz2zCBEB/0zCBEBnuzCBEBxpyCBEBhjyCBEB/8
  xCBEBx/wCBEBj5wCBEBt9uCBEB78uCBEBx6sCBEBrtsCBEBhrsCBEB7ksCBEBjvqCBEB/lqCBEBj7pCBEB97oCBEB7smCBEB
  3imCBEBpylCBEBztkCBEB7hkCBEBvijCBEBz7gCBEB7wgCBEBnwgCBEBrwgCBEB9vgCBEBzvgCBEBnvgCBEBpsgCBEBpsgCB
  EBnhgCBEBn9/BBEBrp/BBEBlm+BBEB9k+BBEBvh+BBEBvu9BBEBrl9BBEB9m8BBEBn+7BCEBvg7BBEB/04BBEB1s4BBEBh23
  BBEBzy3BBEBh52BBEB512BBEB/q1BBEB9i1BBEBp4xBBEBzmxBBEB9ixBBEBr/sCBEBkokFBEBpl8BBDCEBzk2CBEB3r0CBE
  Bzw0CBEBlv1CBEB9y0CBEBpv0CBEB96zCBEB53zCBEB1tyCBEBnyyCBEBhuyCBEBxpyCBEBjixCBEBz8wCBEBzzwCBEB1ywC
  BEB7hwCBEBx1vCBEB/6tCBEBz6tCBEB1xtCBEBvttCBEB76sCBEBxzsCBEB/3sCBEB1vsCBEBzysCBEBxpsCBEBvlsCBEBxs
  rCBEBjnrCBEB5jrCBEBzzqCBEB5hqCBEB13pCBEBv3pCBEB7zpCBEB3xnCBEB3tnCBEBr1mCBEB57lCBEB78lCBEBv3lCBEB
  5nlCBEB7ykCBEBrvhCBEBxmkCBEB/+jCBEBr3jCBEB/ijCBEB35iCBEBv2iCBEBtoiCBEBroiCBEB39hCBEB38hCBEBn7hCB
  EB91hCBEBz2hCBEB99gCBEB1//BBEB5u/BBEBlj/BBEBn1+BBEB3r+BBEBl39BBEB5q9BBEBh27BBEBps7BBEB3z5BBEBp34
  BBEBhz4BBEBjy4BBEBz/3BBEBj83BBEB/+3BBEB173BBEB973BBEBh93BBEBr43BBEBrz3BBEBx72BBEBz41BBEBhl1BBEB1
  y0BBEB9k0BBEBzkyBBEBn+xBBEBj3xBBEB7uxBBEB1sxBBEB/rxBBEBhpxBBEB17vBBEBjztBBEB232EBEBo32EBEBow8EBE
  Bpz/CBEB1r9CBEB1p9CBEBo3rFBEB0/wFBEB4/hGBEBp5tBBEB10tBBDmBECzp9Dzp9DBEC1p9Dvp9DBEC3p9Drp9DBED5p9
  D5p9Dzp9DBED7p9D7p9Dvp9DBECjp9Dhp9DCDMEC956D556DBEC/56D966DBECh66Dz66DBECv56D/56DBECl66Dz66DBDFE
  Cn06Dx26DBABEC5y6Dv26DBEB7z6DBEBh16DBEB906DBEB906DBEBx06DBEBx06DBEBx06DBEB9z6DBEB7z6DBEB7v9DBECh
  06Dx26DBECj06Dx26DBEDl06D/26D126DBEDn06Dh36D126DBEC716Dt36DBEC916Dt36DBEC/16Dn36DBEC/16Dp36DBEC/
  16Dr36DBEC/16Dt36DBEC/16Dv36DBEC/16Dx36DBEC/16Dz36DBDBEC/16D336DBEC/16D536DBEC/16D736DBEC/16D936
  DBEC/16D/36DBDBEC/16Dj46DBDBEC/16Dn46DBEC/16Dp46DBDBEC/16Dt46DBEC/16Dv46DBDBEC/16Dz46DBEC/16D146
  DBEC/16D346DBEC/16D546DBEC/16D746DBECr36Dj56DBEC136D546DBECj36D746DBECz26D946DBEC936Dl36DBEB9t6D
  CEBtt6DEEBvt6DEEBzt6DEEBnu6DEEBlu6DEEB5u6DEEBrs6DEEBvs6DEEB7u6DEEBlv6DEEBnv6DEEBtv6DEEBpv6DCEBvv
  6DCEBvv6DCEB/v6DCEBjv6DCEB1v6DCEBpu6DEEBlu6DEEBlu6DEEBxu6DEEBnu6DCEBpu6DEEBnu6DCEBpu6DEEB3u6DEEB
  3t6DCEB5t6DCAhBEBry6DEEB/w6DCEBlx6DCEBlx6DCECrx6Dx26DBEBlx6DCEB1x6DCEBxx6DCEBnx6DEEB956DCECn86Dl
  86DCECr86Dtx6DCECv86Dr66DCECz86Dxy6DCEC386D3y6DCEC786D3y6DCEC/86Dry6DDECl96D/66DDEB/y6DEECz96Dn9
  6DBEC196Dn96DBEC396D576DBEC596Dz76DBEC796Dz76DBEC596Dx96DBEC796Dx96DBEC996Dx96DBEC/96Dl86DBECh+6
  D/76DBECj+6D/76DBECh+6D996DBECj+6D996DBECl+6D996DBECn+6Dx86DBECp+6Dr86DBECr+6Dr86DBECr+6Dp+6DBEC
  t+6D586DBECv+6Dz86DBECx+6Dz86DBECx+6Dv+6DBECz+6Dh96DBECz+6D1+6DBEC1+6Dl96DBEC1+6D5+6DBEC3+6D5+6D
  BEC5+6Dr96DBECx+6D/+6DBECz+6D/+6DBEC1+6D/+6DBEC3+6Dz96DBEC1+6Dl/6DBEC3+6D396DBEC3+6Dr/6DBEC5+6Dr
  /6DBEC7+6Dr/6DBEC9+6D/96DBEC9+6Dx/6DBEC/+6Dj+6DBEC/+6Dl+6DBEC/+6D5/6DBECh/6Dp+6DBECh/6D9/6DBECj/
  6Dt+6DBEC3+6Dhg7DBEC5+6Dhg7DBEC7+6Dhg7DBEC9+6D1+6DBEC/+6Dv+6DBECh/6Dv+6DBECh/6Drg7DBECj/6D9+6DBE
  Cl/6D3+6DBECn/6D3+6DBECn/6D/g7DBECp/6D3g7DBECr/6D3g7DBECt/6D3g7DBECv/6Dt/6DBECx/6Dt/6DBECz/6Dn/6
  DBEC1/6Dn/6DBEC1/6Dlh7DBEC3/6Dlh7DBEC5/6Dlh7DBEC7/6D5/6DBEC9/6Dz/6DBEC//6Dz/6DBEC//6Dxh7DBEChg7D
  xh7DBECjg7Dxh7DBEClg7Dlg7DBECng7D//6DBECpg7D//6DBECpg7D9h7DBECrg7D9h7DBECtg7D9h7DBECvg7Dxg7DBECx
  g7Drg7DBECzg7Drg7DBECzg7Dpi7DBEC1g7D5g7DBEC3g7Dzg7DBEC5g7Dzg7DBEC1g7Dxi7DBEC3g7Dxi7DBEC5g7Dxi7DB
  EC7g7Dlh7DBEC9g7D/g7DBEC/g7D/g7DBEC1i7D1+6DBEC1i7D3+6DBECnh7D5+6DBED7j+Djh7D5g7DBED9j+Djh7D7g7DB
  ED/j+Djh7D9g7DBEDhk+Djh7D/g7DBEDjk+Djh7Dhh7DBEDlk+Djh7Dl/6DBEC7j7Dlj7DBEC9j7Dlj7DBEC/j7Dhi7DBECh
  k7Dhi7DBECjk7D9h7DBEClk7D9h7DBECjk7Dxj7DBEClk7Dxj7DBECnk7Dti7DBECpk7Dti7DBECrk7Dpi7DBECtk7Dpi7DB
  ECrk7D9j7DBECtk7D9j7DBECvk7D5i7DBECxk7D5i7DBECzk7D1i7DBEC1k7D1i7DBEC1k7Dpk7DBEC3k7Dpk7DBEC5k7Dlj
  7DBEC7k7Dlj7DBEC9k7Dhj7DBEC/k7Dhj7DBEC1j7Dlj7DBEC3j7Dlj7DBEC3j7Dpj7DBEC5j7Dpj7DBEC5j7Dxl7DBEC7j7
  D5j7DBEC9j7D5j7DBEC/j7Dzj7DBEChk7Dzj7DBEChk7D/j7DBECjk7D5j7DBEClk7D5j7DBEClk7Dhm7DBECnk7Dnk7DBEC
  nk7Dxl7DBECpk7Dxl7DBECrk7Dtk7DBECtk7Dtk7DBECvk7Dpk7DBECxk7Dpk7DBECtk7D/h7DBECtk7D/l7DBECvk7D/l7D
  BECxk7D7k7DBECzk7D7k7DBEC1k7D3k7DBEC3k7D3k7DBEChn7D1m7DBECjn7D1m7DBECln7D1m7DBECnn7Dpl7DBECpn7Dn
  l7DBECnn7D/m7DBECpn7D/m7DBECrn7D/m7DBECtn7Dzl7DBECvn7Dxl7DBECtn7Dpn7DBECvn7Dpn7DBECxn7Dpn7DBECzn
  7D9l7DBEC1n7D7l7DBEC1n7Dhm7DBEC1n7Dzn7DBEC3n7Dlm7DBEC3n7D5n7DBEC5n7Dpm7DBEC5n7D9n7DBEC7n7Dtm7DBE
  Czn7Dho7DBEC1n7Dho7DBEC3n7Dho7DBEC5n7D1m7DBEC3n7Dno7DBEC5n7Dno7DBEC7n7D7m7DBEC7n7Dvo7DBEC9n7Dvo7
  DBEC/n7Dvo7DBECho7Djn7DBECho7D1o7DBECho7Dnn7DBECho7D7o7DBECjo7Drn7DBECjo7D/o7DBEClo7Dvn7DBEC5n7D
  jp7DBEC7n7Djp7DBEC9n7Djp7DBEC/n7D3n7DBEC/n7Dpp7DBECho7D7n7DBECho7Dvp7DBECjo7Dvp7DBEClo7Dvp7DBECn
  o7Dlo7DBECpo7Dlo7DBECpo7D5p7DBECro7D5p7DBECto7D5p7DBECvo7Dto7DBECxo7Dro7DBECxo7Djq7DBECzo7Djq7DB
  EC1o7Djq7DBEC3o7D3o7DBEC3o7Drq7DBEC5o7Drq7DBEC7o7Drq7DBEC9o7D/o7DBEC/o7D9o7DBEC/o7D1q7DBEChp7Dlp
  7DBECjp7Dxm7DBEC/o7D7q7DBEChp7D7q7DBECjp7D7q7DBEClp7Dvp7DBECnp7Dtp7DBECxr7Dzp7DBECzr7Dxp7DBECxr7
  D3p7DBECzr7D1p7DBECxr7D7p7DBECzr7D5p7DBECzr7D/p7DBEC1r7D9p7DBECnr7Djq7DBECpr7Dhq7DBECpr7Dnq7DBEC
  rr7Dlq7DBECvq7Dtq7DBECxq7Dtq7DBECxq7Dvq7DBECvq7Dxq7DBECxq7Dvq7DBECrq7D1q7DBECtq7Dzq7DBEDjr7Dnq7D
  hq7DBEDlr7Dnq7Djq7DBEDnr7Dnq7Dlq7DBEC7r7D3q7DBEC9r7D3q7DBEC7r7D7q7DBEC9r7D7q7DBEC9r7D/q7DBEC/r7D
  /q7DBECvs7Djr7DBECxs7Djr7DBECxs7Dnr7DBECzs7Dnr7DBECjt7Drr7DBEClt7Drr7DBECpt7Dvr7DBECrt7Dvr7DBECp
  t7Dzr7DBECrt7Dzr7DBEC/s7D3r7DBECht7D3r7DBECht7D7r7DBECjt7D7r7DBECpt7D5t7DBECrt7D5t7DBECtt7D5t7DB
  ECvt7Dts7DBECxt7D3t7DBEC1t7D5t7DBECzt7D7t7DBECzt7D9t7DBECzt7Dvs7DBEC1t7Dvs7DBECzt7Dzs7DBEC1t7Dzs
  7DBEC1t7D3s7DBEC3t7D3s7DBECnu7D7s7DBECpu7D7s7DBECpu7D/s7DBECru7D/s7DBEC7u7Djt7DBEC9u7Djt7DBEChv7
  Dnt7DBECjv7Dnt7DBEChv7Drt7DBECjv7Drt7DBEC3u7Dvt7DBEC5u7Dvt7DBEC5u7Dzt7DBEC7u7Dzt7DBEChv7Dxv7DBEC
  jv7Dxv7DBEClv7Dxv7DBECnv7Dlu7DBECpv7Dvv7DBECtv7Dxv7DBECrv7Dzv7DBECrv7D1v7DBECxv7Dhw7DBECzv7Dhw7D
  BEC1v7Dhw7DBEC3v7D1u7DBEC7v7Dzu7DBEC7v7D1u7DBEC3v7D7u7DBEChw7Dvw7DBECjw7Dvw7DBEClw7Dvw7DBEClw7D1
  w7DBECnw7D1w7DBECpw7D1w7DBEClw7Dpv7DBEClw7Drv7DBECpx7Dhv7DCASEDry7Dny7D1w7DBEDty7Dny7Dpy7DCEDxy7
  Dry7D7w7DBEDzy7Dry7D9w7DBED1y7D/w7Dxy7DBED3y7Dhx7Dxy7DBED5y7Djx7Dxy7DBED3y7Dlx7D1y7DCED5y7Dpx7D/
  w7DBED7y7Drx7Djx7DBEDxy7D9y7D/y7DBEDzy7Dhz7D/y7DBED1y7Djz7Dpx7DBED3y7Dzx7Djz7DCED7y7D3x7Dpz7DBED
  9y7D5x7D5x7DCED9y7Dtz7Dtz7DCEDhz7Dhy7Dhy7DBEDlz7Dzz7Djy7DCEDpz7D5z7D9x7DBEDrz7Dpy7D3z7DCEDvz7Dty
  7Dty7DCEDvz7Dh07Dpy7DBEDxz7Dh07Dzy7DCEDzz7D3y7Dn07DCED3z7D7y7D7y7DBED5z7D9y7Dzy7DBED3z7Dx07D/y7D
  BED5z7Dhz7Dhz7DCED9z7Dlz7D9y7DBED9z7Dnz7Dnz7DBED/z7Dpz7D/y7DBEDh07Drz7Djz7DBED1z7D707Dtz7DCED3z7
  Dxz7Dh17DBED5z7Dzz7Dzz7DBED3z7Dl17D1z7DBED5z7Dn17Dtz7DBED7z7Dp17Dxz7DBED9z7Dt17Dt17DCEDh07Dt17D/
  z7DCEDl07Dj07Dz17DCEDn07D317D517DBEDp07D517Dp07DBEDr07D717Dh07DBEDt07D/17D917DBEDv07Dh27Dv07DBED
  x07D/17Dj27DBEDz07Dh27Dz07DBACED507Dr27Dn27DBED307D707Dt27DBED507D907D907DBED907Dv27D/07DBED/07D
  x27D507DBEDh17D127Dj17DCEDl17D527D/07DBEDn17Dp17D/07DBEDp17Dr17Dj17DBEDj17Dt17Dt17DCEDr37D/27Dn1
  7DBEDp37Dl37Dp17DBEDr37Dn37Dt17DBEDt37Dl37Dt17DBEDv37Dn37Dx17DBEDx37D717Dx17DBEDz37D917D117DBEDx
  37D/17D117DBEDz37Dx37D517DBED137Dj27D717DBEDp37Dz37D917DBEDn37D337D917DBEDr37D537D/17DBEDp37D737
  Dh27DBEDv27D/37Dj27DBEDx27Dv27Dl27DBEDn27Dh47Dn27DBEDp27Dl47Dp27DBEDr27D127Dr27DBED327D327Dt27DB
  ED/27D527Dv27DBED527Dr47Dx27DBEDj37D927Dt47DBEDh37Dv47D/27DBED537Dh37D327DBEDn37Dj37D527DBEDj37D
  347D147DBEDn37D147D927DBEDr37D747Dp37DBEDv37Dr37Dr37DBEDv37D/47Dt37DBEDt37Dh57D/47DBEDj57Dh57Dn3
  7DBEDj57Dl57Dp37DBED137Dn57Dr37DBED/37D337Dt37DBEDz57Dp57Dv37DBED/37D737D737DBED147Dv57D937DBED/
  47D/37D/37DBEDl57Dv57D337DBEDh47D157D537DBAIDgBED177D367D7x7DBED967D567D9x7DBEE187D767D767D167DB
  EE387D/67D187Dj87DBEE967Dt87D967Dp87DBEE/77Dh77D377D/67DBEEp87Dl87D767Dj77DBEE777Dl77D567D/67DBE
  E/67Dp87Dn77Dl77DBEDn87Dp77D/67DBESp87Dr77Dh77Dz9+Dl97Dr77Dr77Dl77Dz9+Dh87Dr77D/67Dl77Dz9+Dj77Dt
  87Dr77Dp77DBEI987Dt77D19+D987Dt77Dn97Dt77Dn77DBEE187D/y7Dp97Dv77DBADCQEBn++DBEB/gnDBDBEBx9+DBEBx
  9+DBEBn/+DBEBt9+DBEBhgnDBEBhgnDBDHAQDBEB5hvDBEB9hvDBEBn9+DCEB5g/DBEB5g/DBEB37+DBEB17+DBEBpinDBEB
  pinDBEB1inDBEB1inDBEBljnDBEBljnDBEBtjnDBEBtjnDBEBpjnDBEBpjnDBEBpjnDBEBpjnDBACEB3++DBEB1++DBECxi/
  Dn09DEEB7++DDEBni/DBEB/knDBDCEBxh/DBEB1h/DBEBth/DBEBrj/DBEBnkvDBEBhj/DBEBhj/DBEB/9+DBEB99+DBEBxk
  nDBEBxknDBEB3j/DBEBzj/DBEBtj/DBEBtj/DBEBrj/DBEBvi/DBEBti/DBEBxi/DBDBEB3g/DBEBpk/DBEBpk/DBEB1i/DB
  DEEC/k/Dpi8DBEChj8Dri8DBECjl/Dri8DBABECnl/Dti8DBDBECrl/Dvi8DBECtj8Dxi8DBECvl/Dxi8DBECxj8Dzi8DBEC
  zl/Dzi8DBEC1j8D1i8DBEC3l/D1i8DBEC5j8D3i8DBEC7l/D3i8DBEC9j8D5i8DBEB9l8DBEB9l8DCEB/l8DCEBhm8DCEBjm
  8DCEBlm8DEEBrm8DCEBtm8DEEBzm8DCEB1m8DEEB7m8DEEBhn8DEEBnn8DEEBtn8DEEBzn8DCEB1n8DCEB3n8DCEB5n8DCEB
  7n8DEEBho8DEEBno8DEEBto8DEEBzo8DEEB5o8DEEB/o8DEEBlp8DEEB/o8DEEBlp8DEEBrp8DEEBxp8DEEB3p8DEEB9p8DE
  EBjq8DEEBpq8DCEBrq8DCEBtq8DEEChr8Dlt8DCEClr8Dnt8DCECpr8Dnt8DCECtr8Dnt8DCDCCBDBEB/t/DBEB/t/DBEB/t
  /DBEB/t/DBEB/t/DBEB/t/DBEB/t/DBEB/t/DBEB/t/DBEB/t/DBEB/t/DBEB/t/DBEB/t/DBEB/t/DBEB/t/DBEB/t/DBEB
  /t/DBEB/t/DBEB/t/DBEB/t/DBEB/t/DBEB/t/DBEB/t/DBEB/t/DBEB/t/DBEB/t/DBEB/t/DBEB/t/DBEB/t/DBEB/t/DB
  EB/t/DBEB/t/DBEB/r/DBEB/r/DBEB/r/DBEB/r/DBEB/r/DBEB/r/DBEB/r/DBEB/r/DBEB/r/DBEB/r/DBEB/r/DBEB/r/
  DBEB/r/DBEB/r/DBEB/r/DBEB/r/DBEB/r/DBEB/r/DBEB/r/DBEB/r/DBEB/r/DBEB/r/DBEB/r/DBEB/r/DBEB/r/DBEB/
  r/DBEB/t/DBEB/t/DBEB/t/DBEB/t/DBEB/t/DBEB/t/DBEB/t/DBEB/t/DBEB/t/DBEB/t/DBEB/t/DBEB/t/DBEB/t/DBE
  B/t/DBEB/t/DBEB/t/DBEB/t/DBEB/t/DBEB/t/DBEB/t/DBEB/t/DBEB/t/DBEB/t/DBEB/t/DBEB/t/DBEB/t/DBEB/t/D
  BEB/t/DBEB/t/DBEB/t/DBEB/t/DBEB/t/DBEB/t/DBEB/t/DBEB/t/DBEB/t/DBEBz9qDBEBz9qDBEBlz/DBEBr1nDBEBr1
  nDBEBl2nDBEBzmnDBEBnnnDBEBrsnDBEBpsnDBEBnsnDBEBlsnDBEBjsnDBEBxonDBEBvonDBEBtonDBEB3qnDBEBnnnDBEB
  9snDBEB7snDBEB5snDBEB3snDBEB1snDBEB1snDBEBzsnDBEBxsnDBEBvsnDBEBtsnDBEBrsnDBEBpsnDBEBnsnDBEBlsnDB
  EBjsnDBEBhsnDBEB/rnDBEB7rnDBEB5rnDBEB3rnDBEB1rnDBEB1rnDBEB1rnDBEB1rnDBEB1rnDBEB1rnDBEBxrnDBEBtrn
  DBEBprnDBEBlrnDBEBhrnDBEBhrnDBEBhrnDBEBhrnDBEBhrnDBEB/qnDBEB9qnDBEB7qnDBEB7qnDBEB7qnDBEB7qnDBEB7
  qnDBEB7qnDBEB5qnDBEBzqnDBEBpwnDBEBpwnDBCBEBhq3DBEBhq3DBEBx/2DBEBjq3DBEBx/2DBEBx/2DBEBnq3DBEBnq3D
  BEBnq3DBEBz/2DBEBz/2DBEBz/2DBEBz/2DBEBz/2DBEBz/2DBEBrp3DBEB1q3DBEB1q3DBEB1q3DBEBlp3DBEB3q3DBEB3q
  3DBEB3q3DBEB3q3DBEB3q3DBEB3q3DBEB3q3DBEB3q3DBEB3q3DBEB3q3DBDDEBhm3DBEBhm3DBEBhm3DBEBhm3DBEBhm3DB
  EBhm3DBDCEBlm3DBEBlm3DBEBlm3DBEBlm3DBEBlm3DBEBlm3DBDCEBpm3DBEBpm3DBEBpm3DBEBpm3DBEBpm3DBEBpm3DBD
  CEBtm3DBEBtm3DBEBtm3DBDDEB7z/DBEB7z/DBEBrz/DBECl8/D9t+DBEB7z/DBEB/z/DBEB5zvDBDBEBrutDBEBxlvDBEBx
  lvDBEBxlvDBEBxlvDBEB5ktDBEBlitDBDRAMDBAaDBATDBACDBAPDCAODiBA7DDFADDEAtBDDA4CDBANDDABDvBAuBDiEAdD
  DAxBDPAcDEAkBDJAeDFArBDFAeDBAlBDEAODqBEBwCBEBwCBEBwCBEBwCBEBwCBEBwCBEBwCBEBwCBEBwCBEBwCBEBwCBEBw
  CBEBwCBEBwCBEBwCBEBwCBEBwCBEBwCBEBwCBEBwCBEBwCBEBwCBEBwCBEBwCBEBwCBEBwCBEBwCBEBwCBEBwCBEBwCBEBwC
  BEBwCBEBwCBEBwCBEBwCBEBwCBEBwCBEBwCBEBwCBEBwCBA2DDCAKDGEBwCBEBwCBEBwCBEBwCBEBwCBEBwCBEBwCBEBwCBE
  BwCBEBwCBEBwCBEBwCBEBwCBEBwCBEBwCBEBwCBEBwCBEBwCBEBwCBEBwCBEBwCBEBwCBEBwCBEBwCBEBwCBEBwCBEBwCBEB
  wCBEBwCBEBwCBEBwCBEBwCBEBwCBEBwCBEBwCBEBwCBDEAkBDEAoBDIA0BDLABEBuCBEBuCBEBuCBEBuCBEBuCBEBuCBEBuC
  BEBuCBEBuCBEBuCBEBuCBDBEBuCBEBuCBEBuCBEBuCBEBuCBEBuCBEBuCBEBuCBEBuCBEBuCBEBuCBEBuCBEBuCBEBuCBEBu
  CBDBEBuCBEBuCBEBuCBEBuCBEBuCBEBuCBEBuCBDBEBuCBEBuCBDBALDBAPDBAHDBACDDA0BDMA3JDJAWDKAIDYABEBhriEB
  EBhriEBEB5pjEBEB1uiEBEBjziEBDBEBnuiEBEBjiuBBEBnuiEBEBruiEBEBpziEBEBpziEBEB3/0DBEBrziEBEBhziEBEBt
  uiEBEB5yiEBEB/yiEBEBlziEBEBxviEBEB7mjEBEBzviEBEB/yiEBEBnxiEBEB9uiEBEB9uiEBEB9yiEBEBw2rDBEB9gwBBE
  B/yiEBEBs2rDBEBjxiEBEBq2rDBEBzqjEBEB5yiEBEB5yiEBEBnzjEBEB3yiEBEBi2rDBEB1yiEBEB1yiEBEBzyiEBEBlwiE
  BEBrwiEBEBrkuBBEBtwiEBEBtyiEBEB9ztDBDBEBlyiEBEBjxiEBEBjxiEBEB5xiEBEBr/iEBEBr/iEBEBr/iEBEBi1rDBEB
  o2rDBDlCAGDCABDBAsBDBACDDABDCAXDBAoCDIAJDwBATDBACDFAhBDDAbDFAbDmBA4BDEAUDCAyBDBACDFAIDBADDBAdDCA
  DDEAKDHAJDHAgCDgBAnBDEAMDJA2BDDAdDCAbDFAaDHAEDMAHDwCApCD3BEBgEBEBgEBEBgEBEBgEBEBgEBEBgEBEBgEBEBg
  EBEBgEBEBgEBEBgEBEBgEBEBgEBEBgEBEBgEBEBgEBEBgEBEBgEBEBgEBEBgEBEBgEBEBgEBEBgEBEBgEBEBgEBEBgEBEBgE
  BEBgEBEBgEBEBgEBEBgEBEBgEBEBgEBEBgEBEBgEBEBgEBEBgEBEBgEBEBgEBEBgEBEBgEBEBgEBEBgEBEBgEBEBgEBEBgEB
  EBgEBEBgEBEBgEBEBgEBEBgEBDNAzBDHAuBDIAKDGAQEBgCBEBgCBEBgCBEBgCBEBgCBEBgCBEBgCBEBgCBEBgCBEBgCBEBg
  CBEBgCBEBgCBEBgCBEBgCBEBgCBEBgCBEBgCBEBgCBEBgCBEBgCBEBgCBDDAdDIACDwGAfDBAqBDBADDCACDQAGDIAJDhBAu
  BDIAqBDWAaDmBAcDUAXDJAuCDEAkBDJA+BDBAFDNAZDHAKDGA1BDBASDIAnBDJAgDDBAUDLASDBAvBD+BAHDBABDBAEDBAPD
  BALDGA7BDFAKDGAEDBAIDCACDCAWDBAHDBACDBAFDBAKDCACDCADDCABDGABDFAHDCAHDDAFDLAKDBABDCABDBAmBDBAKDBA
  BDCABDBAEDBAKDBACDIACDdA8CDBAFDeAoCDIAKDmFA2BDCAmBDiBAlCDLAKDGANDTA6BDGAKDGAUDcAbDCAPDEAXD5FA8BD
  kDEBgCBEBgCBEBgCBEBgCBEBgCBEBgCBEBgCBEBgCBEBgCBEBgCBEBgCBEBgCBEBgCBEBgCBEBgCBEBgCBEBgCBEBgCBEBgC
  BEBgCBEBgCBEBgCBEBgCBEBgCBEBgCBEBgCBEBgCBEBgCBEBgCBEBgCBEBgCBEBgCBAzBDMAIDCABDCAIDBACDBAeDBACDCA
  MDJAKDmCAIDCAuBDCALDbAoCDIAzCDNApCDHAKD2CAID4CAiBDOAKDGAJDBAtBDBAODKAdDDAgBDCAWDBAODpCAHDBACDBAs
  BDDABDBACDBAJDIAKDGAGDBACDBAlBDBACDBAGDHAKDGAsBDEAKD2HAZDHARDBApBDDAdD1CABDPAyBDNA7cDmDAvDDBAFDL
  AkGDsyCAjDDNAwhBDQAWDKA78DDFAnSD51GA6BDm2BA5RDHAfDBAKDEAxCDBAKDGAeDCAGDKAmCDKAKDBAHDBAVDFATDwNA6
  BDmGEBgCBEBgCBEBgCBEBgCBEBgCBEBgCBEBgCBEBgCBEBgCBEBgCBEBgCBEBgCBEBgCBEBgCBEBgCBEBgCBEBgCBEBgCBEB
  gCBEBgCBEBgCBEBgCBEBgCBEBgCBEBgCBEBgCBEBgCBEBgCBEBgCBEBgCBEBgCBEBgCBA7BDFEB2BBEB2BBEB2BBEB2BBEB2
  BBEB2BBEB2BBEB2BBEB2BBEB2BBEB2BBEB2BBEB2BBEB2BBEB2BBEB2BBEB2BBEB2BBEB2BBEB2BBEB2BBEB2BBEB2BBEB2B
  BEB2BBDCAZDsBArCDEA5BDHARDgCAFDLAHDJA2mHDpBAgBDhDAzDD9vIAEDBAHDBACDBAjJDPABDdADDCABDOAEDIAsMDkoC
  ArDDFANDDAJDHAKDCAECED86DA2GEBpnmHBEBpnmHBEBpnmHBEBpnmHBEBpnmHBEBpnmHBEBpnmHBEBpnmHBEBpnmHBEBpnm
  HBEBpnmHBEBpnmHBEBpnmHBEBpnmHBEBpnmHBEBpnmHBEBpnmHBEBpnmHBEBpnmHBEBpnmHBEBpnmHBEBpnmHBEBpnmHBEBp
  nmHBEBpnmHBEBpnmHBEB/rmHBEB/rmHBEB/rmHBEB/rmHBEB/rmHBEB/rmHBEB/rmHBEB/rmHBEB/rmHBEB/rmHBADDDA0ND
  GAXDPARDPAuBDCAXDJA0DD8BA2HDKAnBDCA1BECNOBECNMBEDPKcBEDRIcBEDTGcBEDVEcBEDXCcBAOCIAgCECDrFBECDtFB
  EDHvF9EBEDHxF/EBEDLzF/EBEDL1FhFBAqBDVAmCD6DAUDMAUDMA3CDJAZDnEEB95pHBEB95pHBEB95pHBEB95pHBEB95pHB
  EB95pHBEB95pHBEB95pHBEB95pHBEB95pHBEB95pHBEB95pHBEB95pHBEB95pHBEB95pHBEB95pHBEB95pHBEB95pHBEB95p
  HBEB95pHBEB95pHBEB95pHBEB95pHBEB95pHBEB95pHBEB95pHBEBx7pHBEBx7pHBEBx7pHBEBx7pHBEBx7pHBEBx7pHBEBx
  7pHBEBx7pHBEBx7pHBEBx7pHBEBx7pHBEBx7pHBEBx7pHBEBx7pHBEBx7pHBEBx7pHBEBx7pHBEBx7pHBEBx7pHBEBx7pHBE
  Bx7pHBEBx7pHBEBx7pHBEBx7pHBEBx7pHBEBx7pHBEBl9pHBEBl9pHBEBl9pHBEBl9pHBEBl9pHBEBl9pHBEBl9pHBEBl9pH
  BEBl9pHBEBl9pHBEBl9pHBEBl9pHBEBl9pHBEBl9pHBEBl9pHBEBl9pHBEBl9pHBEBl9pHBEBl9pHBEBl9pHBEBl9pHBEBl9
  pHBEBl9pHBEBl9pHBEBl9pHBEBl9pHBEB5+pHBEB5+pHBEB5+pHBEB5+pHBEB5+pHBEB5+pHBEB5+pHBDBEB5+pHBEB5+pHB
  EB5+pHBEB5+pHBEB5+pHBEB5+pHBEB5+pHBEB5+pHBEB5+pHBEB5+pHBEB5+pHBEB5+pHBEB5+pHBEB5+pHBEB5+pHBEB5+p
  HBEB5+pHBEB5+pHBEBtgqHBEBtgqHBEBtgqHBEBtgqHBEBtgqHBEBtgqHBEBtgqHBEBtgqHBEBtgqHBEBtgqHBEBtgqHBEBt
  gqHBEBtgqHBEBtgqHBEBtgqHBEBtgqHBEBtgqHBEBtgqHBEBtgqHBEBtgqHBEBtgqHBEBtgqHBEBtgqHBEBtgqHBEBtgqHBE
  BtgqHBEBhiqHBEBhiqHBEBhiqHBEBhiqHBEBhiqHBEBhiqHBEBhiqHBEBhiqHBEBhiqHBEBhiqHBEBhiqHBEBhiqHBEBhiqH
  BEBhiqHBEBhiqHBEBhiqHBEBhiqHBEBhiqHBEBhiqHBEBhiqHBEBhiqHBEBhiqHBEBhiqHBEBhiqHBEBhiqHBEBhiqHBEB1j
  qHBDBEB1jqHBEB1jqHBDCEB1jqHBDCEB1jqHBEB1jqHBDCEB1jqHBEB1jqHBEB1jqHBEB1jqHBDBEB1jqHBEB1jqHBEB1jqH
  BEB1jqHBEB1jqHBEB1jqHBEB1jqHBEB1jqHBEBplqHBEBplqHBEBplqHBEBplqHBDBEBplqHBDBEBplqHBEBplqHBEBplqHB
  EBplqHBEBplqHBEBplqHBEBplqHBDBEBplqHBEBplqHBEBplqHBEBplqHBEBplqHBEBplqHBEBplqHBEBplqHBEBplqHBEBp
  lqHBEBplqHBEB9mqHBEB9mqHBEB9mqHBEB9mqHBEB9mqHBEB9mqHBEB9mqHBEB9mqHBEB9mqHBEB9mqHBEB9mqHBEB9mqHBE
  B9mqHBEB9mqHBEB9mqHBEB9mqHBEB9mqHBEB9mqHBEB9mqHBEB9mqHBEB9mqHBEB9mqHBEB9mqHBEB9mqHBEB9mqHBEB9mqH
  BEBxoqHBEBxoqHBEBxoqHBEBxoqHBEBxoqHBEBxoqHBEBxoqHBEBxoqHBEBxoqHBEBxoqHBEBxoqHBEBxoqHBEBxoqHBEBxo
  qHBEBxoqHBEBxoqHBEBxoqHBEBxoqHBEBxoqHBEBxoqHBEBxoqHBEBxoqHBEBxoqHBEBxoqHBEBxoqHBEBxoqHBEBlqqHBEB
  lqqHBDBEBlqqHBEBlqqHBEBlqqHBEBlqqHBDCEBlqqHBEBlqqHBEBlqqHBEBlqqHBEBlqqHBEBlqqHBEBlqqHBEBlqqHBDBE
  BlqqHBEBlqqHBEBlqqHBEBlqqHBEBlqqHBEBlqqHBEBlqqHBDBEB5rqHBEB5rqHBEB5rqHBEB5rqHBEB5rqHBEB5rqHBEB5r
  qHBEB5rqHBEB5rqHBEB5rqHBEB5rqHBEB5rqHBEB5rqHBEB5rqHBEB5rqHBEB5rqHBEB5rqHBEB5rqHBEB5rqHBEB5rqHBEB
  5rqHBEB5rqHBEB5rqHBEB5rqHBEB5rqHBEB5rqHBEBttqHBEBttqHBDBEBttqHBEBttqHBEBttqHBEBttqHBDBEBttqHBEBt
  tqHBEBttqHBEBttqHBEBttqHBDBEBttqHBDDEBttqHBEBttqHBEBttqHBEBttqHBEBttqHBEBttqHBEBttqHBDBEBhvqHBEB
  hvqHBEBhvqHBEBhvqHBEBhvqHBEBhvqHBEBhvqHBEBhvqHBEBhvqHBEBhvqHBEBhvqHBEBhvqHBEBhvqHBEBhvqHBEBhvqHB
  EBhvqHBEBhvqHBEBhvqHBEBhvqHBEBhvqHBEBhvqHBEBhvqHBEBhvqHBEBhvqHBEBhvqHBEBhvqHBEB1wqHBEB1wqHBEB1wq
  HBEB1wqHBEB1wqHBEB1wqHBEB1wqHBEB1wqHBEB1wqHBEB1wqHBEB1wqHBEB1wqHBEB1wqHBEB1wqHBEB1wqHBEB1wqHBEB1
  wqHBEB1wqHBEB1wqHBEB1wqHBEB1wqHBEB1wqHBEB1wqHBEB1wqHBEB1wqHBEB1wqHBEBpyqHBEBpyqHBEBpyqHBEBpyqHBE
  BpyqHBEBpyqHBEBpyqHBEBpyqHBEBpyqHBEBpyqHBEBpyqHBEBpyqHBEBpyqHBEBpyqHBEBpyqHBEBpyqHBEBpyqHBEBpyqH
  BEBpyqHBEBpyqHBEBpyqHBEBpyqHBEBpyqHBEBpyqHBEBpyqHBEBpyqHBEB9zqHBEB9zqHBEB9zqHBEB9zqHBEB9zqHBEB9z
  qHBEB9zqHBEB9zqHBEB9zqHBEB9zqHBEB9zqHBEB9zqHBEB9zqHBEB9zqHBEB9zqHBEB9zqHBEB9zqHBEB9zqHBEB9zqHBEB
  9zqHBEB9zqHBEB9zqHBEB9zqHBEB9zqHBEB9zqHBEB9zqHBEBx1qHBEBx1qHBEBx1qHBEBx1qHBEBx1qHBEBx1qHBEBx1qHB
  EBx1qHBEBx1qHBEBx1qHBEBx1qHBEBx1qHBEBx1qHBEBx1qHBEBx1qHBEBx1qHBEBx1qHBEBx1qHBEBx1qHBEBx1qHBEBx1q
  HBEBx1qHBEBx1qHBEBx1qHBEBx1qHBEBx1qHBEBl3qHBEBl3qHBEBl3qHBEBl3qHBEBl3qHBEBl3qHBEBl3qHBEBl3qHBEBl
  3qHBEBl3qHBEBl3qHBEBl3qHBEBl3qHBEBl3qHBEBl3qHBEBl3qHBEBl3qHBEBl3qHBEBl3qHBEBl3qHBEBl3qHBEBl3qHBE
  Bl3qHBEBl3qHBEBl3qHBEBl3qHBEB54qHBEB54qHBEB54qHBEB54qHBEB54qHBEB54qHBEB54qHBEB54qHBEB54qHBEB54qH
  BEB54qHBEB54qHBEB54qHBEB54qHBEB54qHBEB54qHBEB54qHBEB54qHBEB54qHBEB54qHBEB54qHBEB54qHBEB54qHBEB54
  qHBEB54qHBEB54qHBEBt6qHBEBt6qHBEBt6qHBEBt6qHBEBt6qHBEBt6qHBEBt6qHBEBt6qHBEBt6qHBEBt6qHBEBt6qHBEB
  t6qHBEBt6qHBEBt6qHBEBt6qHBEBt6qHBEBt6qHBEBt6qHBEBt6qHBEBt6qHBEBt6qHBEBt6qHBEBt6qHBEBt6qHBEBt6qHB
  EBt6qHBEBh8qHBEBh8qHBEBh8qHBEBh8qHBEBh8qHBEBh8qHBEBh8qHBEBh8qHBEBh8qHBEBh8qHBEBh8qHBEBh8qHBEBh8q
  HBEBh8qHBEBh8qHBEBh8qHBEBh8qHBEBh8qHBEBh8qHBEBh8qHBEBh8qHBEBh8qHBEBh8qHBEBh8qHBEBh8qHBEBh8qHBEB1
  9qHBEB19qHBEB19qHBEB19qHBEB19qHBEB19qHBEB19qHBEB19qHBEB19qHBEB19qHBEB19qHBEB19qHBEB19qHBEB19qHBE
  B19qHBEB19qHBEB19qHBEB19qHBEB19qHBEB19qHBEB19qHBEB19qHBEB19qHBEB19qHBEB19qHBEB19qHBEBp/qHBEBp/qH
  BEBp/qHBEBp/qHBEBp/qHBEBp/qHBEBp/qHBEBp/qHBEBp/qHBEBp/qHBEBp/qHBEBp/qHBEBp/qHBEBp/qHBEBp/qHBEBp/
  qHBEBp/qHBEBp/qHBEBp/qHBEBp/qHBEBp/qHBEBp/qHBEBp/qHBEBp/qHBEBp/qHBEBp/qHBEB9grHBEB9grHBEB9grHBEB
  9grHBEB9grHBEB9grHBEB9grHBEB9grHBEB9grHBEB9grHBEB9grHBEB9grHBEB9grHBEB9grHBEB9grHBEB9grHBEB9grHB
  EB9grHBEB9grHBEB9grHBEB9grHBEB9grHBEB9grHBEB9grHBEB9grHBEB9grHBEBxirHBEBxirHBEBxirHBEBxirHBEBxir
  HBEBxirHBEBxirHBEBxirHBEBxirHBEBxirHBEBxirHBEBxirHBEBxirHBEBxirHBEBxirHBEBxirHBEBxirHBEBxirHBEBx
  irHBEBxirHBEBxirHBEBxirHBEBxirHBEBxirHBEBxirHBEBxirHBEBl3qHBEB7mqHBDCEBtvpHBEBtvpHBEBtvpHBEBtvpH
  BEBtvpHBEBtvpHBEBtvpHBEBtvpHBEBtvpHBEBtvpHBEBtvpHBEBtvpHBEBtvpHBEBtvpHBEBtvpHBEBtvpHBEBtvpHBEBhw
  pHBEBtvpHBEBtvpHBEBtvpHBEBtvpHBEBtvpHBEBtvpHBEBtvpHBEBzr6GBEBhxpHBEBhxpHBEBhxpHBEBhxpHBEBhxpHBEB
  hxpHBEBhxpHBEBhxpHBEBhxpHBEBhxpHBEBhxpHBEBhxpHBEBhxpHBEBhxpHBEBhxpHBEBhxpHBEBhxpHBEB/wpHCEBhxpHB
  EBhxpHBEBhxpHBEBhxpHBEBhxpHBEBhxpHBEBxt6GBEBtypHBEBpypHBEBnypHBEBxxpHBEB9xpHBEBhypHBEBhzpHBEBhzp
  HBEBhzpHBEBhzpHBEBhzpHBEBhzpHBEBhzpHBEBhzpHBEBhzpHBEBhzpHBEBhzpHBEBhzpHBEBhzpHBEBhzpHBEBhzpHBEBh
  zpHBEBhzpHBEB1zpHBEBhzpHBEBhzpHBEBhzpHBEBhzpHBEBhzpHBEBhzpHBEBhzpHBEBnv6GBEB10pHBEB10pHBEB10pHBE
  B10pHBEB10pHBEB10pHBEB10pHBEB10pHBEB10pHBEB10pHBEB10pHBEB10pHBEB10pHBEB10pHBEB10pHBEB10pHBEB10pH
  BEBz0pHCEB10pHBEB10pHBEB10pHBEB10pHBEB10pHBEB10pHBEBlx6GBEBh2pHBEB91pHBEB71pHBEBl1pHBEBx1pHBEB11
  pHBEB12pHBEB12pHBEB12pHBEB12pHBEB12pHBEB12pHBEB12pHBEB12pHBEB12pHBEB12pHBEB12pHBEB12pHBEB12pHBEB
  12pHBEB12pHBEB12pHBEB12pHBEBp3pHBEB12pHBEB12pHBEB12pHBEB12pHBEB12pHBEB12pHBEB12pHBEB7y6GBEBp4pHB
  EBp4pHBEBp4pHBEBp4pHBEBp4pHBEBp4pHBEBp4pHBEBp4pHBEBp4pHBEBp4pHBEBp4pHBEBp4pHBEBp4pHBEBp4pHBEBp4p
  HBEBp4pHBEBp4pHBEBn4pHCEBp4pHBEBp4pHBEBp4pHBEBp4pHBEBp4pHBEBp4pHBEB506GBEB15pHBEBx5pHBEBv5pHBEB5
  4pHBEBl5pHBEBp5pHBEBp6pHBEBp6pHBEBp6pHBEBp6pHBEBp6pHBEBp6pHBEBp6pHBEBp6pHBEBp6pHBEBp6pHBEBp6pHBE
  Bp6pHBEBp6pHBEBp6pHBEBp6pHBEBp6pHBEBp6pHBEB96pHBEBp6pHBEBp6pHBEBp6pHBEBp6pHBEBp6pHBEBp6pHBEBp6pH
  BEBv26GBEB97pHBEB97pHBEB97pHBEB97pHBEB97pHBEB97pHBEB97pHBEB97pHBEB97pHBEB97pHBEB97pHBEB97pHBEB97
  pHBEB97pHBEB97pHBEB97pHBEB97pHBEB77pHCEB97pHBEB97pHBEB97pHBEB97pHBEB97pHBEB97pHBEBt46GBEBp9pHBEB
  l9pHBEBj9pHBEBt8pHBEB58pHBEB98pHBEB99pHBEB99pHBEB99pHBEB99pHBEB99pHBEB99pHBEB99pHBEB99pHBEB99pHB
  EB99pHBEB99pHBEB99pHBEB99pHBEB99pHBEB99pHBEB99pHBEB99pHBEBx+pHBEB99pHBEB99pHBEB99pHBEB99pHBEB99p
  HBEB99pHBEB99pHBEBj66GBEBx/pHBEBx/pHBEBx/pHBEBx/pHBEBx/pHBEBx/pHBEBx/pHBEBx/pHBEBx/pHBEBx/pHBEBx
  /pHBEBx/pHBEBx/pHBEBx/pHBEBx/pHBEBx/pHBEBx/pHBEBv/pHCEBx/pHBEBx/pHBEBx/pHBEBx/pHBEBx/pHBEBx/pHBE
  Bh86GBEB9gqHBEB5gqHBEB3gqHBEBhgqHBEBtgqHBEBxgqHBEB5+pHCDCEB75rHBEB75rHBEB75rHBEB75rHBEB75rHBEB75
  rHBEB75rHBEB75rHBEB75rHBEB75rHBEBv6rHBEBv6rHBEBv6rHBEBv6rHBEBv6rHBEBv6rHBEBv6rHBEBv6rHBEBv6rHBEB
  v6rHBEBj7rHBEBj7rHBEBj7rHBEBj7rHBEBj7rHBEBj7rHBEBj7rHBEBj7rHBEBj7rHBEBj7rHBEB37rHBEB37rHBEB37rHB
  EB37rHBEB37rHBEB37rHBEB37rHBEB37rHBEB37rHBEB37rHBEBr8rHBEBr8rHBEBr8rHBEBr8rHBEBr8rHBEBr8rHBEBr8r
  HBEBr8rHBEBr8rHBEBr8rHBAsUDPAFDBAPDwiBAfDGAGD1GAHDBARDCAHDBACDBAFDFEB//tHBEB//tHBEB//tHBEB//tHBE
  B//tHBEB//tHBEB//tHBEB//tHBEB//tHBEB9/tHBEB9/tHBEB9/tHBEB7/tHBEB7/tHBEB7/tHBEB7/tHBEB7/tHBEB7/tH
  BEB7/tHBEB7/tHBEB7/tHBEB7/tHBEB7/tHBEB3/tHBEB1/tHBEB1/tHBEBh88EBEBj3tHBEBr/tHBEBp/tHBEBp2tHBEB/5
  tHBEBh4tHBEBhiuHBEBhiuHBEBhiuHBEBhiuHBEBhiuHBEBhiuHBEBhiuHBEBhiuHBEBhiuHBEB/huHBEB/huHBEB7huHBEB
  7huHBEB5huHBEB3huHBEB3huHBEB3huHBEB3huHBEB3huHBEB3huHBEB1huHBEB1huHBEBr9tHBEBjhuHBEBnhuHBEB1guHB
  EB/7tHBEB1h9EBEB37tHBDhBABDwDAtBDDAODCAKDEACDgKAfDRA6BDFABDwOAqBD2GArBDEABDgGAfDBAWDIACDgHAHDBAE
  DBACDBAPDBAlGDCAQDpBEBkCBEBkCBEBkCBEBkCBEBkCBEBkCBEBkCBEBkCBEBkCBEBkCBEBkCBEBkCBEBkCBEBkCBEBkCBE
  BkCBEBkCBEBkCBEBkCBEBkCBEBkCBEBkCBEBkCBEBkCBEBkCBEBkCBEBkCBEBkCBEBkCBEBkCBEBkCBEBkCBEBkCBEBkCBAq
  BDEAKDEACDxYAkCDsCA9BDiGEBx9zHBEBx9zHBEBr9zHBEBn9zHBDBEB57zHBEBn9zHBEBz9zHBEBh9zHBEB97zHBEBt8zHB
  EBt8zHBEBt8zHBEBt8zHBEB19zHBEBr9zHBEB98zHBEB39zHBEB/8zHBEBj+zHBEB/9zHBEB1+zHBEB1+zHBEBx+zHBEBv+z
  HBEBl+zHBEBj+zHBEBh+zHBEB76zHBEBl2zHBEB53zHBEB/6zHBDBEBx/zHBEBr/zHBDBEB59zHBDCEBz/zHBDBEB99zHBEB
  t+zHBEBt+zHBEBt+zHBEBt+zHBEB1/zHBEBr/zHBEB9+zHBEB3/zHBEB/+zHBDBEB//zHBEB1g0HBEB1g0HBEBxg0HBDBEBl
  g0HBDBEBhg0HBDGEBrh0HBDEEBzh0HBDBEB9/zHBDBEBtg0HBDBEBtg0HBEB1h0HBEBrh0HBDBEB3h0HBEB/g0HBDBEB/h0H
  BDCEBxi0HBDBEBli0HBDBEBhi0HBDBEBl6zHBDBEB/+zHBDBEBxj0HBEBrj0HBDBEB5h0HBDCEBzj0HBEBhj0HBEB9h0HBEB
  ti0HBDBEBti0HBEBti0HBEB1j0HBEBrj0HBEB9i0HBEB3j0HBEB/i0HBDBEB/j0HBEB1k0HBEB1k0HBEBxk0HBDBEBlk0HBE
  Bjk0HBEBhk0HBEB7g0HBDBEB59zHBDBEBxl0HBEBxl0HBEBrl0HBEBnl0HBEB5j0HBEB5j0HBEBnl0HBEBzl0HBEBhl0HBEB
  9j0HBDBEBtk0HBEBtk0HBEBtk0HBEB1l0HBEBrl0HBEB9k0HBEB3l0HBEB/k0HBEBjm0HBEB/l0HBEB1m0HBEB1m0HBEBxm0
  HBEBvm0HBEBlm0HBEBjm0HBEBhm0HBDFEBxn0HBEBrn0HBEBnn0HBDBEB5l0HBEBnn0HBEBzn0HBEBhn0HBEB9l0HBDBEBtm
  0HBEBtm0HBEBtm0HBEB1n0HBEBrn0HBEB9m0HBEB3n0HBEB/m0HBEBjo0HBEB/n0HBEB1o0HBEB1o0HBEBxo0HBEBvo0HBEB
  lo0HBEBjo0HBEBho0HBD0BACDuIAsBDEAkDDMAPDCAPDBAPDBAlBDLECht4Hpt4HBECht4Hrt4HBECht4Htt4HBECht4Hvt4
  HBECht4Hxt4HBECht4Hzt4HBECht4H1t4HBECht4H3t4HBECht4H5t4HBECht4H7t4HBAFEDvu4H9q4Htu4HBEDxu4H9q4Hv
  u4HBEDzu4H9q4Hxu4HBED1u4H9q4Hzu4HBED3u4H9q4H1u4HBED5u4H9q4H3u4HBED7u4H9q4H5u4HBED9u4H9q4H7u4HBED
  /u4H9q4H9u4HBEDhv4H9q4H/u4HBEDjv4H9q4Hhv4HBEDlv4H9q4Hjv4HBEDnv4H9q4Hlv4HBEDpv4H9q4Hnv4HBEDrv4H9q
  4Hpv4HBEDtv4H9q4Hrv4HBEDvv4H9q4Htv4HBEDxv4H9q4Hvv4HBEDzv4H9q4Hxv4HBED1v4H9q4Hzv4HBED3v4H9q4H1v4H
  BED5v4H9q4H3v4HBED7v4H9q4H5v4HBED9v4H9q4H7v4HBED/v4H9q4H9v4HBEDhw4H9q4H/v4HBEDrxgHtr4HpxgHBEBvs4
  HBEBzr4HBECzs4Hxs4HBECtr4Hnr4HBABEB9s4HBEB9s4HBEB9s4HBEB9s4HBEB9s4HBEB9s4HBEB9s4HBEB9s4HBEB9s4HB
  EB9s4HBEB9s4HBEB9s4HBEB9s4HBEB9s4HBEB9s4HBEB9s4HBEB9s4HBEB9s4HBEB9s4HBEB9s4HBEB9s4HBEB9s4HBEB9s4
  HBEB9s4HBEB9s4HBEB9s4HBECju4Hnt4HBEC7t4Hpt4HBECxt4Hvu4HBECzt4Hzt4HBED7t4H7t4Hvt4HBECvt4H3u4HBAaE
  C5v4Htw4HBEC7v4Htw4HBEC9v4Hzv4HBAjBEC3y4Hry4HBAdD4BAaECp4gHp7gHBEC70gH70gHBEB50gHBDNEBp8nGBEBzrr
  GBEBrkvGBEB30gHBEBv4xGBEB1vsGBEBlj0FBEB7usGBEBn3xGBEBx/lGBEBxvgGBEBjomGBEB98vGBEBhppGBEBhpwGBEB9
  mmGBEBlgwGBEB9t6FBEBlw+FBEBz3yFBEBnzsGBEB3+uGBEBjxhGBEBj5nGBEBltnGBEBxiyGBEBhiyGBEBh+wFBEBrkqGBE
  B//xGBEB1jvGBEBvynGBEB/ryFBEB79nGBEBhr8FBEBx77FBEB3ivGBEBp7hGBEB5ylGBEB9ylGBEBpw+FBEBt8vGBEBnouG
  BEB7uwFBDEED3ihHnxlG1ihHBED5ihHvjyG3ihHBED7ihHr7xG5ihHBED9ihHzrrG7ihHBED/ihH14gG9ihHBEDhjhHj/nG/
  ihHBEDjjhH929FhjhHBEDljhHz2vGjjhHBEDnjhHhvmGljhHBDHEBxrpGBEBjmvGBDOAGD6EA5eDDARDDANDDA6GDGAMDEAB
  DPAMDEA4BDIAKDGAoBDIAeDCAMDEACDOAJDnBA4KDIAODCANDDALDDA5BDBABDEAQDCAMDEAKDHAzEDBA8CEB/79HBEB/79H
  BEB/79HBEB/79HBEB/79HBEB/79HBEB/79HBEB/79HBEB/79HBEB/79HBABDlgBAg3pBDgBA+oEDCAu0FDCAxpHDPAuTDitC
  EBl80KBEBx80KBEBh80KBEBhu7DBEBnq0KBEBtl0KBEB1k0KBEBpg0KBEB74zKBEB/2zKBEBlyzKBEB3zzKBEB72hLBEBl94
  DBEBhszKBEB1rzKBEB3qzKBEBzpzKBEBrv5DBEBz1hLBEB5qzKBEBvozKBEB1s5DBEB/nzKBEBnnzKBEB500KBEB7mzKBEBr
  mzKBEB5jzBBEBvizKBEB1hzKBEB/zhLBEBp+yKBEB19yKBEB/6yKBEB36yKBEB9whLBEB71yKBEB51yKBEBl0yKBEB7yyKBE
  BnyyKBEBnyyKBEBnxyKBEBluyKBEB3tyKBEBntyKBEB3ryKBEBlryKBEBjryKDEBvg3DBEBp8jKBEB3myKBEBvlyKBEBpt2D
  BEB7kyKBEBxkyKBEBpjyKBEB75xKBEBpgyKBEBr/xKBEBt9xKBEB75xKBEB10xKBEBjzxKBEB/uxKBEBhuxKBEBhsxKCEB7q
  xKBEB5pxKBEBrpxKBEBvoxKBEBpzwKBEBrkxKBEBrzwKBEB5/wKBEB19wKBEBxkzKBEBl2vKBEBnowKBEB9lwKBEBtkwKBEB
  zswKBEBniwKBEBriwKBEB36vKBEBp3xDBEBv2vKBEBn2vKBEBr1vKBEBl0vKBEB3zvKBEB5vvKBEBv7wDBEBt3wDBEBrnvKB
  EBvkvKBEB5jvKBEB5ovKBEB//uKBEBx3gLBEB32gLBEBh2uKBEB3yuKCEBnqvDBEBzquKBEBrpuKBEBvouKBEB5nuKBEBx1u
  DBEBlnuKBEB5muKBEBhysKBEBlluKBEBpvgLBEBthuKBEBzguKBEBx7tKBEB5+tKBEBtptDBEBxztKBEBtptDBEB/wtKBEBn
  xtKBEBnwtKBEB/ptKBEB/ptKBEBnlgLBEBtotKBEB5ltKBEBxktKBEB7htKBEBrigLBEBrwrDBEB7ggLBEB19sKBEBx9sKBE
  Bt9sKBEBn8sKBEB5vqBBEBj5sKBEB/1qDCEBjp7JBEBj3sKCEB98/KBEB99iDBEB7rrCBEBtzsKBEB9ysKBEBv7/KBEBjwsK
  BEB/ssKBEBtssKBEBrqsKBEB9hsKBEBt2/KBEBr4/KBEB9gsKBEB/8oDBEB79rKBEB71rKBEB11rKBEBz1rKBEB51rKBEB/y
  rKBEB5xrKBEBzvrKBEBxwrKBEB9vrKBEBhtrKBEB7rrKBEB1rrKBEBjqrKBEBvprKBEBtlrKBEBngrKBEBj+qKBEBt2qKBEB
  36mDBEB33qKBEB77qKBEBl1qKBEBxzqKBEBxtqKBEB5smDBEB5pqKBEB1vqKBEBvxqKBEBnp/KBEBzlqKBEBrkqKBEBviqKB
  EB9kqKBEB1l/KBEBx3pKBEB51pKBEB/rkDBEBvupKBEBn9oKBEBnopKBEBp7+KBEB7jpKBEBv8+KBEB5++KBEB/zzKBEB7zz
  KBEBn9oKBEBxjpKBEBxi8JBEB7v6KBEBh8oKBEB77oKBEBx7oKBEB53oKBEBx4oKBEBzxiDBEBp5+KBEBpuoKBEB11oKBEB9
  ooKBEB5loKBEBrniDBEBrloKBEBrsoKBEBj9nKBEBz0+KBEBr6nKBEBr0nKBEB/vnKBEBlknKBEBxkhDBEBjhnKBEBrt+KBE
  B78mKBEBxkgDBEB55mKBEBnq+KBEBh4mKBEBp1mKBEB1zmKBEB1zmKBEBzm/CBEB5+tDBEB9/+CBEB3qmKBEB9j+CBEB5jmK
  BEB/imKBEBtpmKBEBx+lKBEBj8lKBEBz4lKBEBh8lKBEBz5lKBEB34lKBEB/3lKBEBv+9CBEBl9lKBEBxtlKBEB1plKBEBt9
  9KBEB/jlKBEBpklKBEB3j9CBEBpxlKBEBh6kKBEBj78CBEBl48CBEB30kKBEBztkKBEBrvkKBEBzvkKBEB/39KBEB5skKBEB
  1pkKBEBjqkKBEB5mkKBEBr/5DBEBt9jKBEBzr7CBEBj4jKBEBn36CBEBvvjKBEB3ujKBEBjtjKBEB1x5CBEBnqjKBEB/ojKB
  EBh/4CBEBlx4CBEB76iKBEB75iKBEB7n9KBEBr4iKBEBnn9KCEBtuiKBEBltiKBEB9riKBEB3qiKBEBvmiKBEBvh9KBEB/gi
  KBEB9v2CBEBv/hKBEBpq2CBEBv8hKBEBz5rDBEBzyhKBEBz50CBEBn40CBEBxv0CBEBj08KBEBtz8KBEB3khKBEB7k0CBEB/
  k0CBEBzi0CBEBhh0CBEBtihKBEBtihKCEB7/gKBEB/w8KBEB97gKBEBpw8KBEBrr8KBEB/yyCBEB/vgKBEBlsgKBEBnogKBE
  B7m8KBEB3yxCBEB5//JBEBzrxCBEB/oxCBEBt8/JBEB32/JBEBxi8KBEBxx/JBEB/w/JBEB3w/JBEB/9vCBEBrrvCCEBhn/J
  BEB717KBEBr7uCBEB35+JBEBz5+JBEB5z7KBEBpuuCBEBnp+JBEBts7KBEB/n+JBEBro+JBEBzm+JBEBp+sCBEBxg+JBEB3m
  7KBEBt69JBEB529JBEB1y9JBEB5j7KBEBz0rCBEB3yrCBEB1h7KBEB3prCBEB3/8JBEBxjrCBEBl+8JBEB938JBEBp38JBEB
  hqqCBEBxlqCBEB5x8JBEBr9pCBEB9w8JBEBhijDBEB366KBEB/s8JBEB/n8JBEBx36KBEBtk8JBEBhtvKBEB/9oCBEBl9oCB
  EBr/iDBEB7+iDBEBz47JBEBv47JBEB9+0JBEBly6KBEB7v7JBEBpw7JBEBnv7JBEB9tzKBEBju7JBEBhu7JBEBvt7JBEB/q7
  JBEB1lnCBEBlr7JBEB3n7JBEBtj7JBEB7+6JBEBxn7JBEB/96JBEBt76JBEBv06JBEB5k7JBEBt96JBEBr96JBEBt86JBEB7
  2mCBEBzjmCBEBhtmCBEB3n6KBEBtr6JBEBrr6JBEBnp6JBEBh+iCBEBvk6JBEBholCBEBhl6KBEB7k6KBEB9/kCBEB9tkCBE
  Btk6KBEBl25JBEBv15JBEB705JBEB505JBEB7w5JBEB/y5JBEB1q5JBEBvt5JBEBjk5JBEBnp5JBEBjl5JBEBvj5JBEBv+5K
  BEB994JBEB/74JBEBx85KBEBl24JBEBh24JBEB71hCBEB9u4JBEBxu4JBEBl55KBEB9s4JBEB9wiLBEB5xgCBEBrmgCBEB9w
  5KBEBtw5KBEB9y3JBEBlu3JBEBtk3JBEB532JBEB1y+BBEBxy2JBEBnx2JBEB1r2JBEB/l2JBEBxq9BBEBp94DBEB9g2JBEB
  9h2JBEB3+1JBEB9v4DBEBzw1JBEBtq1JBEB7g6BBEBn/5BBEB700JBEBjv0JBEBlt0JBEBtr5BBEB1s0JBEB96zJBEBhxzJB
  EBhxzJBEB72zJBEBj/yJBEBt9yJBEBl/2BBEBlmyJBEBzl4KBEBxjyJBEBzn2BBEB3g4KBEB/yxJBEBjkuKBEBjtxJBEBhr0
  BBEB59zBBEBz43KBEBl43KBEBzhxJBEBh/yBBEBz03KBEBt2yBBEBl/wJCEBt9wJBEB1kyBBEB/xwJBEB/s3KBEB1twJBEB7
  lwJBEBnkwJBEBxgwJBEBzj3KBEBxtvBBEBvvvJBEB18uJBEB9wuJBEB9z2KBEBhy2KBEBvquJBEBj0sBBEBxx2KBEB5wsBBE
  BpgsBBEBl4rBBEBz1tJBEB/r2KBEB7xtJBEBzxtJBEBnxtJBEB1wtJBEBpwtJBEBhutJBEB5hqBBDivBAr6EDFAqpIDmkzVC
  wHD"

/-- The mapping table as runs of status codes (`0` valid, `1` deviation, `2` ignored,
`3` disallowed, `4` mapped), with the mapping of each mapped run. -/
structure DomainTable where
  runs : Runs
  mappings : Array (List Nat)
  deriving Inhabited

/-- Reads packed runs of the mapping table after those read; `last` is the start read last. -/
def DomainTable.read : List Nat → Nat → DomainTable → DomainTable
  | gap :: code :: rest, last, acc =>
    let start := last + gap
    let push (mapping : List Nat) : DomainTable :=
      ⟨⟨acc.runs.starts.push start, acc.runs.values.push code⟩, acc.mappings.push mapping⟩
    if code = 4 then
      match rest with
      | count :: tail =>
        DomainTable.read (tail.drop count) start
          (push ((tail.take count).map fun d => offsetBy start (unzigzag d)))
      | [] => push []
    else DomainTable.read rest start (push [])
  | _, _, acc => acc
termination_by l => l.length
decreasing_by all_goals simp only [List.length_drop, List.length_cons]; omega

/-- The mapping table. -/
def domainTable : DomainTable :=
  DomainTable.read (unpack domainTableText).toList 0 ⟨⟨#[], #[]⟩, #[]⟩

/-- What the mapping table says of a character. ASCII is answered without the table: an
upper-case letter maps to its lower case, and every other ASCII character is valid. -/
def domainStatus (c : Char) : DomainStatus :=
  if c.toNat < 0x80 then
    if 'A' ≤ c ∧ c ≤ 'Z' then .mapped [Char.ofNat (c.toNat + 32)] else .valid
  else
    let i := domainTable.runs.search c.toNat
    match domainTable.runs.values.getD i 3 with
    | 0 => .valid
    | 1 => .deviation
    | 2 => .ignored
    | 4 => .mapped ((domainTable.mappings.getD i []).map Char.ofNat)
    | _ => .disallowed

end HeaderBidding.Web
