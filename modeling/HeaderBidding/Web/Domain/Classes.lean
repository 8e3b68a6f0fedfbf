import HeaderBidding.Text.Packed

/-!
# Properties of the characters of domain labels

The rules for the labels of a domain name look at three properties of Unicode 17.0, given here
for the characters a label may hold (those that `domainStatus` calls valid or a deviation); for
other characters the tables answer as for a neighbour, which no rule ever asks.

- whether a character is a mark (general category `Mn`, `Mc` or `Me`): a label must not start
  with one;
- its bidirectional class, for the rules on labels of right-to-left text;
- its joining type, for the rules on the zero-width non-joiner.

Each table is packed in the manner of `Text.Packed` as runs `(gap, value)`.
-/

namespace HeaderBidding.Web

open Text

/-- The bidirectional classes that the label rules tell apart; the others are `other`. -/
inductive BidiClass where
  | leftToRight
  | rightToLeft
  | arabicLetter
  | arabicNumber
  | europeanNumber
  | europeanSeparator
  | commonSeparator
  | europeanTerminator
  | otherNeutral
  | boundaryNeutral
  | nonspacingMark
  | other
  deriving DecidableEq, Repr, Inhabited

/-- The joining types of cursive scripts. -/
inductive JoiningType where
  | nonJoining
  | leftJoining
  | rightJoining
  | dualJoining
  | transparent
  | joinCausing
  deriving DecidableEq, Repr, Inhabited

/-- The packed runs of marks (`1`) and other characters (`0`). -/
def markText : String :=
  "AAgYBxDAyIBIAmIBtBABBBABBCABBCABBJAgCBLAwBBVAQBBAlDBIABBGACBCABBEAjBBBAeBdA5CBLA6BBJAJBBAYBEABBJ
  ABBDABBHApBBFA5BBJAqBB6BA2BBDABBSABBPACBCAdBEA3BBBABBQAJBJACBEAYBHA3BBgBAUBCADBBALBEA3BBBABBSASB
  EAUBLA3BBBABBhBADBEAcBBA7BBSAHBPAaBFA3BBBABBaAKBEAbBDA4BBBABBeAGBEANBRA3BBCABBQAJBBAKBEAbBEAlCBc
  AMBCA9BBBACBLAIBIAiDBBACBJALBIAoCBCAbBBABBBABBBAEBCAxBBUABBCAFBxBAIBBAkDBUAXBEAEBDABBDACBHADBEAN
  BMABBBAKBEA/VBDAydBNATBDAdBOASBOA2BBeAJBDAlFBCAiBBBA2DBgBA3GBHA3BBrBAwBB1CAvBBRAmBBJAMBDAeBNA4BB
  WAoBBXA1EBDABBVAEBBAGBBACBDAmGBhCAvWB0BAr/CBEAsEBBAgDBgBAqRBGApDBEAyudBEABBKAgBBCAwCBCAwIBBADBBA
  EBBAXBFAEBEAwCBCAyBBaASBSANBBAmBBIAZBYAhBBEAvBBOAkBBBAjCBXADBBAIBEArBBDAyBBBABBDACBCAFBCABBBApBB
  FAFBMAiHBIABBEAu5TB0EAuTBlBA4dBjEAgDBBA1EBKAh0BBPAoBBIAlFBGA5RBMA5BBFA9JBCAtCBGAmCBLAxBBEA6DBDA1
  BBPApBBBACBCAKBEAtBBLAHBOAwBBDAkBBPAPBCAsBBBAMBDAwBBOAIBEABBCA8CBMAGBBACB/BA/CBRAQBFA2BBCABBSAHB
  GAFBeA4BBZABBBAOBfA1BBSAXBBAxCBUArHBSAbBkBAwBBRAqDBNAlDBTA8HBPA1HBPABBBABBCAtEBQADBcABBKAoBBHABB
  EAIBJABBLAuBBQAmGBgDAvDBRAyCBuDAxBBVABBJA6BBOA7KBEAJBCABBBAwBBPAXB2CAwkFBBAGBZA+lLBSAguCBFA7BBHA
  4gBBBABBiCAxCBOArlTBCAhzEBwCA1QBFADBWACBHAeBEA0EBDA79BB3BAEByBAIBBAOBBAWBljBAgIBgIAwBBHA3LBSAsBB
  EA8PBEA+HBCAzHBBACBBAHBCAFBJAyOByCAiBBHA"

/-- The packed runs of bidirectional classes, numbered in the order of `BidiClass`. -/
def bidiClassText : String :=
  "AJJLFJOLFICHDIFFBGBFBGCEKGBImBAaIEJiBIBHEIKHGIpBAYIBAhOICAHIOACIcABIRKxDAEICA/DICArEKIA/HIFHCKtB
  BBKBBBKCBBKCBBKJB2BICCBHCCBGBCBICKLCwBKVDKHBDCCDKBClDKIIBKGCCKCIBKECCEKCXKBCeKdC5CKLCPBrBKJBCIEB
  DKBBYKEBBKJBBKDBBKHBpBKFBCC3BKJCqBK5BA3BKBABKBAEKIAEKBADKPACKCAdKBA6BKBAEKGAGKBAUKEAMHCAHHBACKFA
  5BKCADKbAUKCADKBALKCA5BKBAEKIAEKDASKEALHIABKIA6BKBACKBABKGAGKKALKEAcKBA9BKBAMKDAjBIGHBIGKBADKBA3
  BKBABKDAFKSAKKEASIHACKBA6BKBAPKJANKEAaKCA5BKCAEKFAHKBAUKEAbKBAoCKFADKGA5CKBACKLHBAHKIAiDKBACKJAL
  KIAoCKCAbKBABKBABKBIEAzBKOABKFABKCAFKxBAIKBAmDKEABKGABKCACKCAZKCAEKDAQKEANKBACKCAGKBAPKBA/VKDAwB
  IQAgDIBA6UIFAyDKDAdKCAeKOASKOA3BKHAIKBACKLAHHBABKDAQIgBA1DKCAiBKBA2DKDAEKCAJKBAGKHIGA4EIiBAXKCAC
  KDA4BKBABKJABKBACKIAGKNAwBK0CAwBKBABKFABKBAFKBAoBKJAMKCAgBKEACKCABKDA4BKBABKCADKBABKDA6BKIACKFA1
  EKDABKNABKHAEKBAGKBADKCAmGKhCArQJEIgBHFIPGBI7CHwBK0BIqBHMIUA8BIoEFBHBIiJAlCIaABI2YABIzKAgIIwZA1F
  IHADKEAGIHA/DKBAgDKgBIlQADIZAJKEACIBAGIEACIEA4CKEADIBA6CIBAkGIwBAw+GIgCAw0VIgCA9JIDA/CKEIBKKIDAd
  KCAwCKCAOIjBAlDIBA5DKBADKBAEKBAZKCABIEKEAIHIA0BIMAkCKKASKSANKBAmBKIAZKLAuBKDAwBKBACKEACKCAnBKBAj
  CKGACKCACKLADKBAIKBAvBKBAzBKBABKDACKCAFKCABKBAqBKCAIKLApDI2CAlBKBACKBAEKDAu5TK0ECRI9SKlBIuBCtMAh
  IIBA+BItCADIgCAtBKjEAgDKBEfA2DKKAgkBB/IIBBhHKPBoBKIBlFKGBuCIHBgOCkBKMDaBfKFByHDgBBrBKCBVCPIpBKGB
  wBCWKLCfBSKEB6DABKBA2BKPALIUAKKBACKCAKKDAxBKEACKCAHKOAwBKDAkBKFABKJA9BKBAMKCA0BKJAKKEACKBA/CKDAC
  KBABKCAGKBACK/BA/CKBADKNAQKCA5BKCADKBAlBKaA7BKHAMKBABKBABKBAOKfA4BKIACKDABKBAXKBA0CKGABKBAEKCABK
  CAuHKGAEKCABKCAbKkBAzBKIACKBABKCAfIgBArBKBABKBACKGABKBAlDKDACKEABKJA/HKJABKCAgIKCABKBAEKBAwEKIAE
  KBAgBKGACKCAoBKGACKEAIKJABKGACKDAuBKNABKCAmGKBABKDABKBApGKOA0CKXABKHABKCABKrCAxBKVABKJAgCKDACKBA
  BKBA7KKCALKCA0BKIACKBABKBAXK2CAlBIIHEIeAhiFKBAGKZA+lLKMADKDAguCKFA7BKHA4gBKBA/BKEAvCIBABKMAtlTKC
  Ah7DIgYKwCA3QKDARKIACKHAeKEA7BI5CKDI7DAgCIgDAg1BK3BAEKyBAIKBAOKBAWKljBAgIKgIAwBKHA3LKSAsBKEAPHxO
  AcKEA+HKCAzHKBACKBAHKCAFKJAiIBwGKyCBiBKHBmZC/TIgTAdIDA9BI5BA6DIgtDA"

/-- The packed runs of joining types, numbered in the order of `JoiningType`. -/
def joiningTypeText : String :=
  "AAgYExDAyIEIAmIEtBABEBABECABECABEJAgCELAFDBABCEDBCBDBCBDFCEDNFBDHCBDCEVAODCEBCDAFDPCSDmBCBDCCJDB
  CBDBCBDCCCABCBEIABEGACECABEECCAKDDACDBAQCBEBDDCFDECBDJCBDBCBDBCBDCCBEdCBDLCDDPCCDECBDBCCDDCCDGAm
  BELAZDhBEJAGFDEBAYEEABEJABEDABEHAQCBDFCCDBCBDKCBDBCDEFACDBABDEABCBDBCaFDDBACDFCBDIEJDKCDABCBDCCC
  DGCBDPABE5BA3BEBABEBAEEIAEEBADEPACECAdEBA6BEBAEEGAGEBAUEEAYEFA5BECADEbAUECADEBALECA5BEBAEEIAEEDA
  SEEAUEIA6BEBACEBABEGAGEKALEEAcEBA9BEBAMEDAwBEBADEBA3BEBABEDAFESAKEEAbEBA6BEBACEBAGEBAFEJANEEAaEC
  A5BECAEEFAHEBAUEEAbEBAoCEFADEGA5CEBACELAIEIAiDEBACEJALEIAoCECAbEBABEBABEBA3BEOABEFABECAFExBAIEBA
  mDEEABEGABECACECAZECAEEDAQEEANEBACECAGEBAPEBA/VEDAydEDAdECAeEOASEOA3BEHAIEBACELAJEDAnBDBACFGAQDg
  DAFECDiBEBDGAwDEDAEECAJEBAGEHA3GECACEDA4BEBABEJABEBACEIAGENAwBE0CAwBEBABEFABEBAFEBAoBEJAMECAgBEE
  ACECABEDA4BEBABECADEBABEDA6BEIACEFA1EEDABENABEHAEEBAGEBADECAmGEhCAsQFDAgGE0BAr/CEEAsEEBAgDEgBAqR
  EEArDEEAyudEEABEKAgBECAwCECAwIEBADEBAEEBAZECAFEEAQDyBBBAxCEKASESANEBAmBEIAZELAuBEDAwBEBACEEACECA
  nBEBAjCEGACECACELADEBAIEBAvBEBAzBEBABEDACECAFECABEBAqBECAIELAkHEBACEBAEEDAu5TE0EAuTElBA4dEjEAgDE
  BA1EEKAh0BEPAoBEIAgEDFCBABCBABCCACBBCFDEBBDFCBDDCBACCBEGDECBAwEDBCBDBCDDDCBDCCBDBCCDBCIAQCEDCAxK
  BBDhBCBDBEMA5BEFA9JECAVCBDCABDKAqBEGAwBDDCBDRABELDDCBAbDECCDMEEAqBDBABDCCDABDBCCDCCBDCABDBCCDBAE
  CBDBBVAhBEBA2BEPApBEBACECAKEDAxBEEACECAHEOAwBEDAkBEFABEJA9BEBAMECA0BEJAKEEACEBA/CEDACEBABECAGEBA
  CE/BA/CEBADENAQECA5BECADEBAlBEaA7BEHAMEBABEBABEBAOEfA4BEIACEDABEBAXEBA0CEGABEBAEECABECAuHEGAEECA
  BECAbEkBAzBEIACEBABECAqDEBABEBACEGABEBAlDEBABEBACEEABEJA/HEJABECAgIECABEBAEEBAwEEIAEEBAgBEKAoBEG
  ACEEAIEJABEGACEDAuBENABECAmGEBABEDABEBApGEOABEBAyCEXABEHABECABErCAxBEVABEJAgCEDACEBABEBA7KECALEC
  A0BEIACEBABEBAXE2CAwkFEBAGEZA+lLEMADEDAguCEFA7BEHA4gBEBA/BEEAxCEMAtlTECAhzEEwCA3QEDAREIACEHAeEEA
  0EEDA79BE3BAEEyBAIEBAOEBAWEljBAgIEgIAwBEHA3LESAsBEEA8PEEA+HECAzHEBACEBAHECAFEJAyOEyCDiBEMA"

/-- Marks, as runs. -/
def markRuns : Runs :=
  Runs.ofNumbers (unpack markText).toList

/-- Bidirectional classes, as runs. -/
def bidiClassRuns : Runs :=
  Runs.ofNumbers (unpack bidiClassText).toList

/-- Joining types, as runs. -/
def joiningTypeRuns : Runs :=
  Runs.ofNumbers (unpack joiningTypeText).toList

/-- Whether a character of a label is a mark; no ASCII character is one. -/
def isMark (c : Char) : Bool :=
  c.toNat ≥ 0x80 && markRuns.valueAt c.toNat == 1

/-- The bidirectional class of a character of a label. The characters of host names in ASCII
are answered without the table: lower-case letters are left-to-right, digits European numbers
and the hyphen a European separator. -/
def bidiClass (c : Char) : BidiClass :=
  if 'a' ≤ c ∧ c ≤ 'z' then .leftToRight
  else if '0' ≤ c ∧ c ≤ '9' then .europeanNumber
  else if c = '-' then .europeanSeparator
  else
    match bidiClassRuns.valueAt c.toNat with
    | 0 => .leftToRight
    | 1 => .rightToLeft
    | 2 => .arabicLetter
    | 3 => .arabicNumber
    | 4 => .europeanNumber
    | 5 => .europeanSeparator
    | 6 => .commonSeparator
    | 7 => .europeanTerminator
    | 8 => .otherNeutral
    | 9 => .boundaryNeutral
    | 10 => .nonspacingMark
    | _ => .other

/-- The joining type of a character of a label. -/
def joiningType (c : Char) : JoiningType :=
  match joiningTypeRuns.valueAt c.toNat with
  | 1 => .leftJoining
  | 2 => .rightJoining
  | 3 => .dualJoining
  | 4 => .transparent
  | 5 => .joinCausing
  | _ => .nonJoining

end HeaderBidding.Web
