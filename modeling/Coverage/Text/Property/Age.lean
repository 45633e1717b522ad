/-!
# Ages

Every character is as old as the version of the standard that introduced it.
-/

namespace Coverage.Text.Property

/-- The names of the versions, in order. -/
def ageNames : List (List String) := [
    ["1.1", "V1_1"], ["2.0", "V2_0"], ["2.1", "V2_1"], ["3.0", "V3_0"], ["3.1", "V3_1"],
    ["3.2", "V3_2"], ["4.0", "V4_0"], ["4.1", "V4_1"], ["5.0", "V5_0"], ["5.1", "V5_1"],
    ["5.2", "V5_2"], ["6.0", "V6_0"], ["6.1", "V6_1"], ["6.2", "V6_2"], ["6.3", "V6_3"],
    ["7.0", "V7_0"], ["8.0", "V8_0"], ["9.0", "V9_0"], ["10.0", "V10_0"], ["11.0", "V11_0"],
    ["12.0", "V12_0"], ["12.1", "V12_1"], ["13.0", "V13_0"], ["14.0", "V14_0"], ["15.0", "V15_0"],
    ["15.1", "V15_1"], ["16.0", "V16_0"]]

/-- The ranges of the characters that are new in each version, packed as groups of how many
characters lie between two ranges and how far a range extends. -/
def packedAges : List String :=
  ["gSA1PEd4B4CHuBBJWlCaBSBEADAFGBABTBrBBGDABABABABRNLBhCBLBoBJ0BCBCBDbCHCB3BlBCGBmBBAmBJBIMaFEXA",
   "OADABZFSNNCnCCEBOBdCJnQCB0BCRCEDYQCBHCBCVBGBADDCABGCBCCJAEBBECUHACFEBCVBGBBBBBBCABEEBCCLDBAHO",
   "MCBGBABCBVBGBBBECJBCBCCAPAFJRCBHCBCVBGBBCDCHDBCCIBEBBCEKRBBFDCBDDBBABBDBDCDHBCEEDCBDJAPLOCBHB",
   "CBWBJBEEGBCBDHBJBEJSBBHBCBWBJBEEGBCBDHBHABBEJSBBHBCBWBPEFCCBDJAIBEJxE5BEclBBBACBBACAGDBGBCBAB",
   "ACBBMBCCEBABFCJCBiOlBKmBEAE5CFjCFxCmgD6EF5CGVCFClBCFCHBABABABeC0BBOBNCFBSCCBIBuBBWjBGDaRKlBRe",
   "4BavBN6CVxHOAB4DlEkBbKVqEV1EKvCQTG1CxEDBDCbBiBBABDDABGCGOeDXBNhiC3BHABzCEFC9CGnBE9CBPgDcDjBcb",
   "DxBPLEuBB2DEiDCehwGltU6iQtxGyGGMEGYBEBABBBBBrDhBsLQ/BC1BoBLkBDMUEJBSBDECBABmECAB9CC9CDFCFCFCC",
   "DGBGOC6BxsBQBMUA7pCnCBgBHaEFBABUDGBAh3DAvQA06iBj9K8C//B+/nCB+//BB+//BB+//BB+//BB+//BB+//BB+//",
   "BB+//BB+//BB+//BB+//BB+//BB+//BhggEEslIAv63BAyH2PDeHCR1DExBAKE3CITA0DADABABABAeAMAiCAMAqBBCD8",
   "CB8EAoGCiDBFAPAqBEBNBdDa1BwBxuBBBRDXBIBACGDAEFBABHSC1LArBAXCHABCBOCAwBhBBEBBBGDDGZmNGB+BBABDC",
   "GBABDCmBBABDCeBABDCGBABDCGBGBWBeBABDCGBmBBSGbjB0CM1TJcDwCvE8CDJWOBJG3CIpBl8BAYF/CCyBB1CBoCAnD",
   "ItIA5DABdqEBpOHhBA2CBuM/HgsBZB4CM1GaL8BCDAhLXoS1tGqyUskBDRCPBLBCBA2yVA7mBCoC0fB6u+BfwoBeBDMa1",
   "FlBClBy9yB1HKmBDzFiR0CBmCBBCACBCDBLBABDBBBgCBDCHBGBbBDBEBADGBxKEhJExBggK22pBppU9QjvhWAe/C2DgR",
   "AuJATMoDBcAzEB5BBCBCBxBP+KBhKAlqCBnwBMBGLWJTMMBCBBzmCAGEEAHENA+BByBGyCOoFLyHN8DAezB8IT3EJ4CHW",
   "B6CLCJ+GN6CbEPgI/P7pBC3CBIB+CAwHPxCOxCOivcBQAMADAqrV6BxcADP1BBsBArHB6EhRASC3DB/BQwCHFC3EEkQDJ",
   "IgCC1EBPAtBCdC0NA4FAjCABAoEA0CCNAjCA7BAhEHhGB/4CASJmIcDLELEADpBCErDfgYrDnXBmHAzUBuJA0IB0DHOB+",
   "iBNv4BBxBArBBuCDnFDjDBfAguG/B9/rBApCB3NLBZBSBBBOCNiB6DFCEsBDIgSdBAmEBmBvCCJ2aFCABrBBBDACAg2yB",
   "2CqLA+hrYvHsF3RK2IE/ED2HBqFAiBCjCASA6BFxHdvQAwCAnPAvBApfBnJBBAqIA/BA/BAnBAfAfAfAPAnBAXBfZmvBp",
   "BGZGJEBgBbCBsa3CxUBBGxBEdD1BAwCAPAkUK8RAlDBSKFPuIGnaFsHuBBuBhBqDOsBK1BJAQWJGBGBGBGBGBGBGBGhBX",
   "EBidPuFAnpbVk6BWpHrBkyUpD2ZJmZqC1QjBENqxBDBBFHBCBaECEIIIn9xBlC+iBBmCiSNrJCxKAqBFQDmFAlQ6BgMBB",
   "BibBNBtwDrCEsBnSGzBBsXD9CB1BA3SLqWA0IDpaGFD8JMHD/0eDFB+I3BokYZFAg3FubxEiDNDs3rBR4iBByFwbDCB3C",
   "A3FAsEPiHELEgBEuJRxPB+GAjBAuGAdBsDAsDAaBIBUH9FAGAdBMFDGrPBhDADCtCAFACAHCEFa/BEBqgCA1WqBDLmC3B",
   "DODyBrKb1FD6CFkLArEA+CA1BD0oBAVJDDoIAfDrZEEoBDE4ICBCEFiLfYDCS8XAiFT4ubH8pBrJUfCRIbjEECqDuDEgE",
   "kCJLmBzCLAgF2BJNCJCDk+UCpbL0BtBiEcDwBvyBZFAp/xBA22HrBEjD0FkpBB6WtBCOhGAtCAGAjBBgEA5uBDhGD8FEk",
   "CEyCFgQA2TIwRlC0FBuBAlC+BBcCKGJGNiRiBqIA4VC3EC2BA+SA1VBdCEJBSBAEX3CA9fE2IANBrDG/JAygBL0rbHkoB",
   "vBgN3C4JJmFbkDcDtCBKEBgEbEiCYEgHtBCJ29KWEwBvzICyuDVBI6FBkKfgE1BDcCaFHgEoC3QehQhC+5HuhBxmvBKFe",
   "CALABACADADEIAHAZABBCAKDCAvDAPhBOI3ltB0hE0GmpBB4HA+BAgPbCA7GBTAGBbE6PFxNAQATA9RDpCBicBhjCzBID",
   "8PA4UHcAvZK6WATABDdAEBcAjBABAECJB0BCYAOAOBgtBAOA4hBClldBrJBBBOJwCAmYFCFCFJGBGjkUP+hFtCEdw8V4R",
   "nuRB+kQOCNCOBOwCABKBABBBCBCFHBGBJGIBACBBJEBBJrCZBBvBIVBuFgBPFBlCDTMkBBEVQP+BBAB1FBDD9BSXzEEBP",
   "BCBABABABCBFCDBACDBLEKwBlC6BzDs+vB9GyFvsBA0DA7UABK3BaxPAtfBnPAFAvBCr1CCMFgIHrBD02CABAkpBBzBAF",
   "A4BBqGJwscAn1BHjBAyHBWAtCBmXW35TBw6D3BGBw4BYHJG0BBN8BoCHJmlB3BIJ2hWkCLuBQQgzfDBaBBBACABJBDBAB",
   "AGAEABABABCBBBACABABABABABBBACDBGBDBDBABJBQFCBEBQ0BB4TB0eD8FAQADABABABADAGBEABBEAC6lIAE8wBApy",
   "GD6I/bAoNH9CB2DA7UALFsCA4DAHA/TAzBAsCA/DAkHJhoCHkRBxMO5RBtHOlWC2ZGlYAsiBCKZCfChBDLBHqTG1ieF2H",
   "LLCCBlCAoPe9DDwFvBEBh2UG9aBTA/JbjBAwBqBlMnBIzBLAwE2JJVKH4H+BIIwOfgBmBELpERHDMGvmBAwGmB2CAMAGT",
   "LRBqByD6BFJHCBHCBCVBGBBBECICBCCJAFGCGDErInCIJmF1BCR2BkCLJmSyCMAgO4B2jCpBqGLFAruReBJEBgDdCFKlC",
   "KJBGBUFSwjUqDFMDIHJCH86KkGCPo/BAgBVVB0QLJAmCAWLlBAFDFLRGnCABA2FAEB/BBEGdRBoBB1CmCBNvBmCJQMDDs",
   "E0CrBLE3BIJGnBId2DzlCBuBA1QAgLAkIA10BACFgmDArGBgzCD9+cIo2BAwHAiBFkKBiTDMvCuzUBw1CSBBFE8FBCPCt",
   "BgUyBNyBHFpmBDOEgFGBABDBOBK2CAvCA5TTiJZDOEP5iDAmHjG81HmS38iBK3wBrUPEBO9jGCuCBvCEkBH/HArCEzHBr",
   "EA/RInDE7BA/yvBh0FoD2lCHWO9cAuGAECBGXCn4DIyLA/vBDkyCBpreA2IAnmWBhZjBEjBiqDAhO5CBABAiQMzsBIBsB",
   "BNKcDfCVBNp5UAfs/FTyXtoVGBQCGBBBE1mCqCFJEB7hCRuEA+ZApBAsJBhBCiRFBHIACLBLEOmBMwCgjCKxMB8HFgQA6",
   "BB69DA+HDlWA/ZAy+BAyTEkXAn1bUi6YCw2FnCIzBCWBE9SGBBBrBDABBBIIJn0UAghQ8IxCrMk7PFtjBBiBBnQLTAIHB",
   "BZASMmBF4BWpm1BwpH2DgrBAnBAmDAtQCzGAqJA3DAtMA/DAz/CA3gBqBCC63DCWYEOrSEgXA71bE/9BAIBkKB0pYBSA3",
   "VnBIJmOnBIpBzLA2DC0PAiJA7VAlH7BhTAiWFBBBkBBBBFHJ2JYn6T6CyqGEu3ST+DG4nGjC6jBApuBA7GD0LCcECDDAB",
   "DYKNJHBkBYgDN4D3jDAuQACACABFEAHAHBCANA/xDAu2DA1BAvSAqreFCE/cB4jZWojBA4SAnXHCtBCK/EB6pBxBNAwhF",
   "Is4OFEAvBI6CBugGF4qKCRD48LsBDNCJEBwL5BFAryBA1d8BuhBAorBAkBAlHLhJCvBAxBAJApBFDBKFDHCCwBzCcDECF",
   "CNFC/3MA2D+lCJtUAuNA8DA9pDB2mEA4VCobE2/GJwxUMq+BDqBB1BA7ZDwxVAjnDpBBCCB+Hb7LAmEBqUAFB+kBGCACH",
   "BBBdBBCLJJ2yBAzhUALBh4GiPqBIkgZC9CC9BAopBBjBBzNB6CAlDAEBqBBGCdAoFAODPSHGJCNGpByEB2BlBJ92qBGip",
   "Wq6E8E9wBAySeBBGHVASKpbAgBA/DAvxCAHAJAvHAxVN9DAwBB7TAlWAu7CAvBAzPK/scCg+BBOBBABEYCt+UA9LP/DAu",
   "BBw7BKBOBGBBBKBOBGBBjOFBpBBI19BZmHFsCA2vBAmEGpbPwmFiD9zOuCBJmpRDBGBBgJD9uHtBCWJzDlRB1oDexbexp",
   "BGBDBBBO+2DCwIAoMAyCAuFBsBDKDICRCGHIGn/qBB1iEDgCznDA6OAuhgCC/ZC+lCJ2fQBoBDb1mFAJc8mfAiBAqrITx",
   "iDFlI9BhBAgiBpBivEA3ECEE5CA7UCPBkBCLCBAOBKBMAOBgivBA2gX/iEG8/LDvPAgwuFtT+C3kCA21EBvBApIB88BC6",
   "tDBlvdCMCjvXzBs6BlBDcIByJC3BAjkBJBACABlBBJBACABDBJBBIBtXT8mBhBOJgbAloF68DloH5BmgD5Bl8HAg4P5HG",
   "zN84FqBEAy1EJEBnOAFAuBAHAVACAJAhHkB"]

end Coverage.Text.Property
