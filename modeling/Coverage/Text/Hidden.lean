import Coverage.Text.Packed
import Coverage.Text.Ranges

/-!
# Characters that do not show

Controls, format characters, blanks other than the space, marks that join the character before
them, characters that are left out where they have no effect, and code points without a character,
in the sense of the Unicode character database.
-/

namespace Coverage.Text

/-- The ranges of the characters that do not show by themselves, packed as one group of how many
characters lie between two ranges and how far a range extends. -/
def packedHidden : List String :=
  ["44BAf/ChBMAySvDIBGDHABAUAgHGmFAmBByBBDtBBABBBBBIbDGQKKBAuBUQAlDHBFCBBDgBBBAec5CKBNrBIHCYDBIBC",
   "BGPAZEBALEgBPqB4B3BABAEHEADGKBdACAIBCBWAHABCECBACFCBCABMCADDYEBAGDCBWAHACACACDDXEABGKBDABLBAJ",
   "ADAWAHACAFCEHBACCBOCDMGBHCAIBCBWAHACAFCBBBFCBCOCADDSKBAGCDAECCABACCCCDCMEBACCDADCBUVFDAIADAXA",
   "QCBCESDACBCDKGKALADAXAKAFCCBBACWDACDKADNLADApBBBACEDADACDDAKDaBCASCYAJABBHICFHGKBDLwBACKIHNkB",
   "CABAFAYABAKACIBBFABIKBEfYBbABABAOAkBRBEBBFwBIAGANkBtBDBFBBCBZBECQDNACBGAPAoBABEBBvEBoHAEBHABA",
   "EBpBAEBhBAEBHABAEBPA5BAEBjCEdCaF2CBGBgUAcC5CGSMTCCISNNADO0BBBGIACKJCKFKFLEKF5CGFBiBABEmCJfDEB",
   "DDCAGGBCqBBFKsBDaFLC5BBCC4BABIBACHGMKFKFO1CwBJECIAdIMBgBDCF4BABBDABMwBHCEPC+BErBBLKBMBGEAGADB",
   "BEgG/B2IBGBmBBGBIABABABAfB1BAPAOBGATBDAJQYHvBQCBbANCiB9BsED6UVLU04BB5LCCEtBABEBB4BGCOXIHAHAHA",
   "HAHAHAHAHgB+ChBaA5CL2GZQApBFQA2CDlDErBAzBAqBA2CIwBAtzcC3BI8KTvBDBJgBBwCBGH9GTRADAEAZBFDKF4BHk",
   "CJMXNAmBHZKBLeFwBACDCBCANALDHAZApBFCBCKDAIABBKBgBAzBABCCBFBBABXRBIKGBGBGIHAHA8BD1DACAECKFk9KL",
   "XDxBjoIuLBqDlBHLFEBAYAFABACACAqUfQPKVjBATAEDFAnED/EAeCGBGBGBDCHAHMCBMAaATACAPBOhB7DEDDtBC4CAN",
   "CBuBtBiEdCxBPbDkBIeEmBJeAlBDOpB+EBKFkBDkBDoBH0BKMAPAHACALAPAHACC0BL3JIWJIXGAqBAJkCGBBAsBACCBB",
   "XAoCHJvBTACEhBCbEblB4BDUBvBOEADAdJJGJGgCflBFMI2BCdBbEaGELHvCpC2BzBMzBGqBLKFmBHYHCvGfAqBCBBCPG",
   "HJmBoBHWKJVSDElBcTXIBA2BOHDeACBBLxBDCBCAENZGKIkBEBISHjBADK0BIBAIDCAQAUKSAcCCDGAC+BHABAEAPALFv",
   "BADMKHCAIBCBWAHACAFCBABAEBCBCCBLHbKABBBAmBABACOBACCBADACmB4BHCCBAVABADdwBACFBACABBBBEHKlFvBAC",
   "FEBBBbjBzBHCABBEKKFNSrBABACHCFKFUbbCBACDBIX4FvBIBBBjDzCLIBBBIACAYAFACFEADIKlCIBqBHEAEaBJoBFCD",
   "IIBFCCuBMBBJMpCGK2CBCBAB3CiBNKFJAmBNBAGJdCgBYBGBBBqCHACAmBUBIKFGACAlBDCABABGKFsBDK1HTBEIPAkBH",
   "CCX1CBOyBM7clDvDAFKkGryCjDMwhBQGY78DEnS41GeLDCKl2B5RGfAKDxCAKFeGBJwBGPJKAHAVETvN6BlG7CEZBZrBr",
   "CE4BKN/BENFI2mHoBgBgDzD8vIEAHACAjJOBcDBBNEHsMjoCrDENCJGKBBBB/6D9HC0NFXOR+C0D7B2HJnBB8BEDVCGeD",
   "9BUiCCB5DULUL3CIZmE1CAnCACBBBCBEAMABAHAhCAEBIAHAcAEAFABCHA0KBkJByR2BExBIAOAHzjBfFGkI+BxEtBJHB",
   "KDC/JeRsBDKEBvOcDK1GeBLDB/FfADACAHBFIC/GHAEACAPAlGBJvBkCGBDKDCwYkCrC9BhGEAbACABBBAKAEABABFBDB",
   "ABABADACABBBABABABABACABBEAHAEAEABAKAREDAFARzBCtIsBDkDLPBPAPAlBJuF3BdMsBDJGCNG5E5eCRCNC6GFMDB",
   "OMD4BHKFoBHeBMDCNJmB4KHOBNCLC5BABDQBMDKGzEAnDkgBg3pBf+oEBu0FBxpHOuThtC+QhvBr6EEqpIl8yb"]

/-- The characters that do not show by themselves. -/
def hiddenRanges : Ranges := Ranges.ofSteps 0 ((unpack packedHidden).getD 0 [])

/-- Whether a character does not show by itself. -/
def isHidden (c : Char) : Bool :=
  let n := c.toNat
  n < 32 || n = 127 || (127 < n && hiddenRanges.contains n)

end Coverage.Text
