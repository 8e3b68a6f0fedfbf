import HeaderBidding.Text.Packed

/-!
# Characters that print on their own

Quoted text (`Text.Quoted`) writes every character that does not print on its own as an
escape. Under Unicode 17.0 these are the characters

- of the general categories control (`Cc`), format (`Cf`), surrogate (`Cs`), private use
  (`Co`) and unassigned (`Cn`), and the separators (`Zs`, `Zl`, `Zp`) other than the space;
- that extend a grapheme (`Grapheme_Extend`): the combining marks and a few others;
- that are ignorable by default (`Default_Ignorable_Code_Point`), such as the Hangul fillers.

`hiddenRuns` holds the set as alternating runs, the first (from `U+0000`) hidden.
-/

namespace HeaderBidding.Text

/-- The packed gaps between the runs of hidden and shown code points. -/
def hiddenRunsText : String :=
  "AgB/CiBMBySwDICGEHBBBUBgHHmFBmBCyBCDuBBBBCBCBJbEGRKLBBuBVQBlDIBGCCBEgBCBBed5CLBOrBJHDYEBJBDBHPBZ
  FBBLFgBQqB5B3BBBBEIEBDHKCdBCBICCCWBHBBDEDBBCGCCCBBNCBDEYFBBGECCWBHBCBCBCEDYEBBHKCDBBMBBJBDBWBHBC
  BFDEIBBCDBPCEMHBICBICCCWBHBCBFDBCBGCCCPCBDESLBBGDDBEDCBBBCDCDDDMFBBCDDBDDBVVGDBIBDBXBQDBDETDBCCC
  EKHKBLBDBXBKBFDCCBBCXDBCEKBDOLBDBpBCBBCFDBDBCEDBKEaCCBSDYBJBBCHJCGHHKCDMwBBCLIINlBCBBBFBYBBBKBCJ
  BCFBBJKCEgBYCbBBBBBOBkBSBFBCFxBIBGBNlBtBEBGBCCCZCEDQENBCCGBPBoBBBFBCvECoHBECHBBBECpBBEChBBECHBBB
  ECPB5BBECjCFdDaG2CCGCgUBcD5CHSNTDCJSONBDP0BCBHIBCLJDKGKGLFKG5CHFCiBBBFmCKfEECDECBGHBDqBCFLsBEaGL
  D5BCCD4BBBJBBCIGNKGKGO2CwBKEDIBdJMCgBECG4BBBCDBBNwBICFPD+BFrBCLLBNBHEBGBDCBFgGgC2ICGCmBCGCIBBBBB
  BBfC1BBPBOCGBTCDBJRYIvBRCCbBNDiB+BsEE6UWLV04BC5LDCFtBBBFBC4BHCPXJHBHBHBHBHBHBHBHhB+CiBaB5CM2GaQB
  pBGQB2CElDFrBBzBBqBB2CJwBBtzcD3BJ8KUvBEBKgBCwCCGI9GURBDBEBZCFEKG4BIkCKMYNBmBIZLBMeGwBBCECCCBNBLE
  HBZBpBGCCCLDBIBBCKCgBBzBBBDCCFCBBBYRCILGCGCGJHBHB8BE1DBCBEDKGk9KMXExBkoIuLCqDmBHMFFBBYBFBBBCBCBq
  UgBQQKWjBBTBEEFBnEE9EDeDGCGCGCDDHBHNCCMBaBTBCBPCOiB7DFDEtBD4CBNDBvBtBjEdDxBQbEkBJeFmBKeBlBEOqB+E
  CKGkBEkBEoBI0BLMBPBHBCBLBPBHBCD0BM3JJWKIYGBqBBJlCGCBBsBBCDBCXBoCIJwBTBCFhBDbFbmB4BEUCvBPEBDBdKJH
  JHgCgBlBGMJ2BDdCbFaHEMHwCpC3BzBNzBHqBMKGmBIYICwGfBqBDBCCQGIJnBoBIWLJWSEEmBcUXJBB2BPHEeBCCBMxBECC
  CBEOZHKJkBFBJSIjBBDL0BJBBIECBQBULSBcDCEGBC/BHBBBEBPBLGvBBDNKICBICCCWBHBCBFDBBBBECCCCDBMHcKBBCBBm
  BBBBCPBBCDBBDBCnB4BICDBBVBBBDewBBCGBBCBBCBCEIKmFvBBCGECBCbkBzBICBBCELKGNTrBBBBCICGKGUcbDBBCEBJX5
  FvBJBCBkDzCMICBCIBCBYBFBCGEBDJKmCICqBIEBEbBKoBGCEIJBGCDuBNBCJNpCHK3CBDBBB4CiBOKGJBmBOBBGKdDgBZBH
  BCBrCHBCBmBVBJKGGBCBlBECBBBBHKGsBEK2HTCEJPBkBICDX2CBPyBN7cmDvDBFLkGsyCjDNwhBRGZ78DFnS51GeMDDKm2B
  5RHfBKExCBKGeHBKwBHPKKBHBVFTwN6BmG7CFZCZsBrCF4BLNgCEOFJ2mHpBgBhDzD9vIEBHBCBjJPBdDCBOEIsMkoCrDFND
  JHKCBCBg7D9HD0NGXPR/C0D8B2HKnBC8BFDWCHeE9BViCDB6DUMUM3CJZnE1CBnCBCCBCCCEBMBBBHBhCBECIBHBcBEBFBBD
  HB0KCkJCyR3BEyBIBOBH0jBfGGlI+ByEtBKHCKECgKeSsBEKFBwOcEK2GeCLEBgGfBDBCBHCFJCgHHBEBCBPBlGCJwBkCHBE
  KECxYkCsC9BiGEBbBCBBCBBKBEBBBBGBEBBBBBBDBCBBCBBBBBBBBBBCBBCEBHBEBEBBBKBRFDBFBR0BCuIsBEkDMPCPBPBl
  BKuF4BdNsBEJHCOG6E5eDRDND6GGMEBPME4BIKGoBIeCMECOJnB4KIOCNDLD5BBBEQCMEKHzEBnDlgBg3pBgB+oECu0FCxpH
  PuTitC+QivBr6EFqpI"

/-- The characters that do not print on their own, as runs. -/
def hiddenRuns : Runs :=
  Runs.ofGaps (unpack hiddenRunsText).toList

/-- Whether a character does not print on its own: printable ASCII prints, other ASCII does not,
and the rest is looked up in `hiddenRuns`. -/
def isHidden (c : Char) : Bool :=
  if c.toNat < 0x7F then c.toNat < 0x20
  else hiddenRuns.valueAt c.toNat == 1

end HeaderBidding.Text
