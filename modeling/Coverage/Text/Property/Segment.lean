/-!
# Where texts are divided

How characters take part in the division of a text into what a reader takes for characters, into
words and into sentences.
-/

namespace Coverage.Text.Property

/-- The names of the classes for the division into characters. -/
def clusterNames : List (List String) := [
    ["CN", "Control"], ["CR"], ["EX", "Extend"], ["L"], ["LF"], ["LV"], ["LVT"],
    ["PP", "Prepend"], ["RI", "Regional_Indicator"], ["SM", "SpacingMark"], ["T"], ["V"], ["ZWJ"]]

/-- The ranges of these classes, packed as groups of how many characters lie between two ranges and
how far a range extends. -/
def packedClusters : List String :=
  ["mBAJBBBR/CgBNAurBAxvEA8/BACBYGxBPv03BAwHL0hNPgjiBDvmFHl0rYfgD/DwHvwDCNAwXgYvDzIGnIsBBABBBBBAo",
   "CKwBUQAlDGCFCBBDjBAea7CK6BIJAYDBIBCBErBC7BIqBXBf3BABAEHEADGKBdA6BABACDIAJAKBaACB5BAEBEBCCDAeB",
   "DALB5BAEEBBEAUBWFBA6BABBBDIAHCKBeA7BABAMAJAoBADA3BABCFCBDHBLBdA6BACBBADCBDHBLBcB5BBBACDIAJAKB",
   "dAoCAEACCBAIAxCACGMHiDACILGpCBbABABA3BNBEBBFKBjBJAmDDBFBBCBZBECQDNACBGAPA/VCydDcCdBeBgCBBGIAC",
   "KJAtBCBA1DBiBA2DCEBJAGC7GBCA6BABGBABACHGJCAwBexBDwBJECmBIMBgBDCF4BABBDABE4BHCB4ECBMBGEAGADBmG",
   "/BsQAjGgB+/CCtEAgDfqRFpDB0udDBJgBBwCBwIADAEAZBFA3EBaRNAmBHZKBAsBCwBACDCBCAkBAjCFCBCBMAIAvBAzB",
   "ABCCBFBBAqBBIAuHACAEAw5TAhXPQPuLB9SAiHA1EEm0BCBBFDoBCEAlFB9RDhCE9JBvCDmCKxBD7DA2BOpBACBKCxBDC",
   "BHA9BCkBEBH+BAMB0BIBAIDCA/CCCDGACA9EADHVB5BBBABAMAJAOGDEjCACFBACABCECBAOB1CHCCBAXAxCACFBACABB",
   "BBrHACDGBBBbB1CHCABBqDABACHlDABACDBEjIIBB1HAKDEAwEDCBEAgBJoBFCDIAJFCCuBMBB2MGBFBAyCVCGBBBB6DF",
   "DABBBGBAoCBDABA7KBLB0BEFCXAlnFAGOomLLDCguCE7BG4gBA/BDxCALBrlTBhzEtBCW+QEDFIHCGeD0EC79B2BExBIA",
   "OAWEBOwqBGBQCGBBBEkDAgFG3LA9BD8PD+HBgXGtDGw1CEghjY/CgEvHEgoE/CggmBcCKA+YggrBAbAbAbAbAbAbAbAbA",
   "bAbAbAbAbAbAbAbAbAbAbAbAbAbAbAbAbAbAbAbAbAbAbAbAbAbAbAbAbAbAbAbAbAbAbAbAbAbAbAbAbAbAbAbAbAbAb",
   "AbAbAbAbAbAbAbAbAbAbAbAbAbAbAbAbAbAbAbAbAbAbAbAbAbAbAbAbAbAbAbAbAbAbAbAbAbAbAbAbAbAbAbAbAbAbA",
   "bAbAbAbAbAbAbAbAbAbAbAbAbAbAbAbAbAbAbAbAbAbAbAbAbAbAbAbAbAbAbAbAbAbAbAbAbAbAbAbAbAbAbAbAbAbAb",
   "AbAbAbAbAbAbAbAbAbAbAbAbAbAbAbAbAbAbAbAbAbAbAbAbAbAbAbAbAbAbAbAbAbAbAbAbAbAbAbAbAbAbAbAbAbAbA",
   "bAbAbAbAbAbAbAbAbAbAbAbAbAbAbAbAbAbAbAbAbAbAbAbAbAbAbAbAbAbAbAbAbAbAbAbAbAbAbAbAbAbAbAbAbAbAb",
   "AbAbAbAbAbAbAbAbAbAbAbAbAbAbAbAbAbAbAbAbAbAbAbAbAbAbAbAbAbAbAbAbAbAbAbAbAbAbAbAbAbAbAbAbAbAbA",
   "bAbAbAbAbAbAbAbAbAbAbAbAbAbAbAbAbAbAbAbAbAbAbAbAbAbAbAbAbAbAbAbAbAbAbAbAbAbAbAbAbAbAbAbAbAbAb",
   "AbAbAbAbAbAbAbAbAbAbAbAbAbAbAbAbAbAbAbAbAbAbAbAbAbAbAbAbAbAbAbAbAbAbAbAbAbAbAbAbAbAbAbAbAbAbA",
   "bAbAbAbAbAbAbAbAbAbAbAbAbAbAbAbAbAbA+YhgrBaBaBaBaBaBaBaBaBaBaBaBaBaBaBaBaBaBaBaBaBaBaBaBaBaBa",
   "BaBaBaBaBaBaBaBaBaBaBaBaBaBaBaBaBaBaBaBaBaBaBaBaBaBaBaBaBaBaBaBaBaBaBaBaBaBaBaBaBaBaBaBaBaBaB",
   "aBaBaBaBaBaBaBaBaBaBaBaBaBaBaBaBaBaBaBaBaBaBaBaBaBaBaBaBaBaBaBaBaBaBaBaBaBaBaBaBaBaBaBaBaBaBa",
   "BaBaBaBaBaBaBaBaBaBaBaBaBaBaBaBaBaBaBaBaBaBaBaBaBaBaBaBaBaBaBaBaBaBaBaBaBaBaBaBaBaBaBaBaBaBaB",
   "aBaBaBaBaBaBaBaBaBaBaBaBaBaBaBaBaBaBaBaBaBaBaBaBaBaBaBaBaBaBaBaBaBaBaBaBaBaBaBaBaBaBaBaBaBaBa",
   "BaBaBaBaBaBaBaBaBaBaBaBaBaBaBaBaBaBaBaBaBaBaBaBaBaBaBaBaBaBaBaBaBaBaBaBaBaBaBaBaBaBaBaBaBaBaB",
   "aBaBaBaBaBaBaBaBaBaBaBaBaBaBaBaBaBaBaBaBaBaBaBaBaBaBaBaBaBaBaBaBaBaBaBaBaBaBaBaBaBaBaBaBaBaBa",
   "BaBaBaBaBaBaBaBaBaBaBaBaBaBaBaBaBaBaBaBaBaBaBaBaBaBaBaBaBaBaBaBaBaBaBaBaBaBaBaBaBaBaBaBaBaBaB",
   "aBaBaBaBaBaBaBaBaBaBaBaBaBaBaBaBaBaBaBaBaBaBaBaBaBaBaBaBaBaBaBaBaBaBaBaBaBaBaBaBaBaBaBaBaBaBa",
   "BagBgwBF3GAxBAgMBwCArjBAu7gCAPA0HBtQAtrBABA4HApCF8VA7NACmv8DZ0JjoCA3BACCIDBByBB7BBGBCB2BA6BCi",
   "CA6BCIABB1BB8BAGBCByDABBDCBC0BC9BD9BB6BACABBuBAOB7BBFCBC1BBsCBGGTB/BA/DAqEB/BAxFAJBZBsBAx5BAH",
   "HBB6KDCCEBBFgHB6BABAVFxEA5BDgCAeAEB/BACCBA1BHIBrFAVAr5iBBCA4CByBPuEAwBAwBBEBCBvDBCBYA9EACBFAt",
   "HBBBBBBAzgZABA/DAtBCEBzDAYB7BAwBCJAOA9CCDBsFCfB7BABDCBCBVB1CBPABBnDCIBDArDBGABBBACAuHBGDCAxDC",
   "IBBAtDABB2DAlICJA4HEBBHABAuECIDEA0CAdB+BA3MAOAqDAHACA1GEEBBA+KBMAwBBIBqvQCkxD2BEotE3CruxBwBEg",
   "rEnCowxBWCtgIA"]

/-- The names of the classes for the division into words. -/
def wordNames : List (List String) := [
    ["CR"], ["DQ", "Double_Quote"], ["EX", "ExtendNumLet"], ["Extend"], ["FO", "Format"],
    ["HL", "Hebrew_Letter"], ["KA", "Katakana"], ["LE", "ALetter"], ["LF"], ["MB", "MidNumLet"],
    ["ML", "MidLetter"], ["MN", "MidNum"], ["NL", "Newline"], ["NU", "Numeric"],
    ["RI", "Regional_Indicator"], ["SQ", "Single_Quote"], ["WSegSpace"], ["ZWJ"]]

/-- The ranges of these classes, packed as groups of how many characters lie between two ranges and
how far a range extends. -/
def packedWords : List String :=
  ["CNACiBAO/CAv+HAPBTA+u3BBYCvHAqUgYvDzIGnIsBBABBBBBAoCKwBUQAlDGCFCBBDjBAea7CK6BIJAYDBIBCBErBC7B",
   "IqBXBgB2BCBRBGKBdC4BABGCBCCJAKBaACC4BABEEBCCDAeBDALC4BABHBCBCUBWFBC4BABGCBCCHCKBeA7BEDCBDJAoB",
   "E3BABGBCBDHBLBdC4BABGBCBDHBLBPAMD3BBBGBCBDJAKBdCmCAEFBABHSB9BACGMHiDACILGpCBbABABAEBxBTBBFKBj",
   "BJAkDTXDECBCCGDDNLBAKD/VCydDcCdBeBgCfJAtBCBA1DBiBA2DLEL7GE5BJBcCAwBexBEvBQmBIMCeM4BNwBT4ECBUE",
   "AGACCmG/BsQAjGgB+/CCtEAgDfqRFpDB0udDBJgBBwCBwIADAEAXEEAzCByBRaRNAmBHZMsBDvBNkBAjCNMAIBtBCyBAB",
   "CCBFBBApBEFBsHHBBw5TAhXPQPuLB9SAiHA1EEm0BCBBFDoBCEAlFB9RDhCE9JBvCDmCKxBD6DC1BOpBACBKDtBKHA9BC",
   "kBNQBsBAMCwBNIDBB8CLGACA9ELVD3BBBGCBCCJAKBCGDEjCIBACABDBEBAOByCRXAxCTrHGCIbByCQqDMlDOgIO1HFBB",
   "CDBABBtEGCGDAcJoBGBDIAJKuBP1MHBHyCVBN6DFDABBBGBAiCEBBBE7KDJBBAwBGDEXAlnFAGOomLRguCE7BG4gBAB2B",
   "HDxCALBrlTBhzEtBCW+QEDFIHCGeD0EC79B2BExBIAOAWEBOwqBGBQCGBBBEkDAgFG3LA9BD8PD+HBgXGtDGw1CEghjY/",
   "CgEvHoBtFAyqBFWAgGAxBAgMBwCAr5DA//BBaExBEBJv03BA5HChmEAPAi7IPgjiBDvmFHm0rYAUwuBaEDqp9BABJBMBE",
   "BABBBBBJexhMElDBD6CBDwHPwGuBB3CugzB3ByisBDBGBBBA/ICyBAODmlBhCZGZvBAKAEAFWBeB/OGhBwDEBBCDBAGAB",
   "CBABTByCBqEIlFBlBCDBABoBBAoDAsBqBjBBBiDBAPBHBKCCAQABdd4CLAYgBJBEAFVEAJADAXYHKFXBFRpB6B1BDASAH",
   "JPPEHCBCVBGBADDDAQANBBCOBKAIFEBCVBGBBBBBBfDBATCQIBCBVBGBBBEDASAPBXALHCBCVBGBBBEDAeBBCPARABFDC",
   "BDDBBABBDBDCDLWA0BHBCBWBPDAaCCACBeAEHBCBWBJBEDAfBBBPBRIBCBoBCAQAFCICYFFRDXBIBACG5JA/BHBjBbEzI",
   "lBBAFACqBBsKBDCGBABDCoBBDCgBBDCGBABDCOB4BBDCiClBPQ1CCFDrTCQBZFqCDKHRNSOROMBCvF4CHEChBBAFlCKeh",
   "HWuHuBRH2BdNBKrBajBpBCKjBCKFqBCCpBDBFBBDAF/FgC1ICFClBCFCHBABABABeC0BBGBADCBGDDCFEMFCBG0DANAQM",
   "lDAEACJBADEGABABABDBKCDFEEARoBtZzB24BkHGDDBMlBBAFAC3BHAQWJGBGBGBGBGBGBGBGwCA1OA1BBoGqBB9CRfgy",
   "bskBjCtBCsIDPKBUuBQeCvCYlGCBBABHVPBCBDBWdzBOxB+BFDABBLbKWZcHuBcAwBoBXCBH0EKHCMFCFCFJGBGB5BGyD",
   "dj9KMWEwBk4IGME4BhDhBqLS/BC1BoBL0DEBmEkBZGZlCeDFCFCFCCjBLBZBSBBBOCNiB6DlC0BrIcDwBvBfNdFlBKdCj",
   "BEHBEqB9ESjBEjBEnBIzBMKBOBGBBBKBOBGBBDzBM2JJVKHYFBpBBIlCFCABrBBBDACWKWJehCSBBKVKZmC3BGBgCAPDB",
   "CBcqBcDcjBHBbb1BKVKSNRuDoC3ByBNyBNjBmBbJW6HpBGBQC7BcKAIVqBRuBUbWM0B5BBCANsBgBYajBdACAIiBDAMvB",
   "ODVABAjBRBYTB/BGBABDBOBJHuBmBHCBCVBGBBBEDASAMEeJBACABlBBAZABAsB0BSDUCevBUBBA4FuBpBDkBvBUA7BqB",
   "NAnKrB0D/BfHCACHBBBXPABA+CHCmBQABAcAKnBHAVALtBTASoCnGgBfIBkBRAxBdwDGBBBlBVAZFBBBfOAnKSPABMBhB",
   "8DAvC5cmDuDRjGsyCgDPvhBRFZ68DFmS51Gdi3B4RHeRuCRdSvBQDfUFSwNsBzG/BgEqCFAiCMgCBBA8gTqDFMDIHJm7F",
   "0CBmCBBCACBCDBLBABGBgCBDCHBGBbBDBEBADGBzKCYBYBeBYBeBYBeBYBeBYBH05BeGFlI9ByEsBKGQAhKdSrBkPbkHd",
   "CAvPGBDBBBOBkG7BjCHA0lBDBaBBBACABJBDBABAGAEABABABCBBBACABABABABABBBACDBGBDBDBABJBQFCBEBQ0TZGZ",
   "GZCKAMuBAp/HBKAtx3BA0FAGAS6BA8DAvWA3OA0EAyxGArv3BAhCAkGAcsBAOAiaAqQAiEB+CArMAriGAru3BADA7BADA",
   "3FAOAGLB4DAi9HBwEwBJmxBJBAkEJmGJ8MJ2DJ2DJ2DJ2DJ2DJ2DJ2DJ2DJ2DJgDJ2DJmCJ2IJmCJm6BJmBJsJJgEJmFJ",
   "GJ2FJ2CJmEJGJmuiBJmVJmBJmGJWJ2CJ2MJ24UJmsBJmkCJGJ8YJgEJ8BJwEJ2IJ2KJ2DJ2LJmDJGTsCJmNJmDJ2UJ2CJ",
   "2HJmCJmNJ2uQJmpCJ2CJmEJ2QJ27XJ02CxBgqCJmNJ2PJ3HJ1aJ20EJCmv8DZCnBAMgBA/yFA/rCGBC0CAg9DACtgIA"]

/-- The names of the classes for the division into sentences. -/
def sentenceNames : List (List String) := [
    ["AT", "ATerm"], ["CL", "Close"], ["CR"], ["EX", "Extend"], ["FO", "Format"],
    ["LE", "OLetter"], ["LF"], ["LO", "Lower"], ["NU", "Numeric"], ["SC", "SContinue"],
    ["SE", "Sep"], ["SP", "Sp"], ["ST", "STerm"], ["UP", "Upper"]]

/-- The ranges of these classes, packed as groups of how many characters lie between two ranges and
how far a range extends. -/
def packedSentences : List String :=
  ["IuBA1/HAtx3BA7FA6CiBAECxBABAdABAtBAPA+zDD96BB7rCHZBKB2BBOB5TDdBwhBFHNvCBfJzMV/BDgBBigBNOBCJYA",
   "SHrNJCHBC+ozBB3GBcPCBQFpFBxBABAdABABBBBy49BCCNAoUgYvDzIGnIsBBABBBBBAoCKwBUQAlDGCFCBBDjBAea7CK",
   "6BIJAYDBIBCBErBC7BIqBXBgB2BCBRBGKBdC4BABGCBCCJAKBaACC4BABEEBCCDAeBDALC4BABHBCBCUBWFBC4BABGCBC",
   "CHCKBeA7BEDCBDJAoBE3BABGBCBDHBLBdC4BABGBCBDHBLBPAMD3BBBGBCBDJAKBdCmCAEFBABHSB9BACGMHiDACILGpC",
   "BbABABAEBxBTBBFKBjBJAkDTXDECBCCGDDNLBAKD/VCydDcCdBeBgCfJAtBCBA1DBiBA2DLEL7GE5BJBcCAwBexBEvBQm",
   "BIMCeM4BNwBT4ECBUEAGACCmG/BsQBiGgB+/CCtEAgDfqRFpDB0udDBJgBBwCBwIADAEAXEEAzCByBRaRNAmBHZMsBDvB",
   "NkBAjCNMAIBtBCyBABCCBFBBApBEFBsHHBBw5TAhXPQPuLB9SAiHA1EEm0BCBBFDoBCEAlFB9RDhCE9JBvCDmCKxBD6DC",
   "1BOpBACBKDtBKHA9BCkBNQBsBAMCwBNIDBB8CLGACA9ELVD3BBBGCBCCJAKBCGDEjCIBACABDBEBAOByCRXAxCTrHGCIb",
   "ByCQqDMlDOgIO1HFBBCDBABBtEGCGDAcJoBGBDIAJKuBP1MHBHyCVBN6DFDABBBGBAiCEBBBE7KDJBBAwBGDEXAlnFAGO",
   "omLRguCE7BG4gBAB2BHDxCALBrlTBhzEtBCW+QEDFIHCGeD0EC79B2BExBIAOAWEBOwqBGBQCGBBBEkDAgFG3LA9BD8PD",
   "+HBgXGtDG12lY/CgEvHqBtFAyqBFWAgGAxBAgMBwCAr5DA8/BACBaExBEBJv03BA5HChmEAPAi7IPgjiBDvmFHm0rYAij",
   "B7NAEDwGAkBGGLaABAlEAkPA2DaEEsBqBjBBBiDBAPBHBKCCAQABdd4CLAYgBJBEAFVEAJADAXYHKFXBFRpB6B1BDASAH",
   "JPPEHCBCVBGBADDDAQANBBCOBKAIFEBCVBGBBBBBBfDBATCQIBCBVBGBBBEDASAPBXALHCBCVBGBBBEDAeBBCPARABFDC",
   "BDDBBABBDBDCDLWA0BHBCBWBPDAaCCACBeAEHBCBWBJBEDAfBBBPBRIBCBoBCAQAFCICYFFRDXBIBACG6BvBBBMG6BBBA",
   "BEBXBABJBBJACEBAVDgBA/BHBjBbEzDqBUAQFEDDADBHCEMMAhCqBCrKBDCGBABDCoBBDCgBBDCGBABDCOB4BBDCiClBP",
   "xDrTCQBZFqCDKHRNSOROMBCPzBjBAEAjC4CHEChBBAFlCKexBdCELrBEZ2BWJ0ByCA9CuBRH2BdNBKrBajBpBCKjBSqBC",
   "CpBDBFBBDA6hBDnCCCDn9C3BHAQWJGBGBGBGBGBGBGBGwCA1OCZIHECEE1CGCB5CBDFqBB9CRfwBPgQ/tGgCs0VjCtBCs",
   "IDPKBiCAQAgBvCnBIoDAGAnDADGBCBDBWdzBOxB+BFDABBLbKWZcHuBcAQEBJKEBoBXCBHUWDADxBBADBCECABAYCCKHC",
   "MFCFCFJGBGxEiBdj9KMWEwBkoItLCpDjCABJBMBEBABBBBBrDhBqLS/BC1BoBL0DEBmEpD3BCeDFCFCFCCjBLBZBSBBBO",
   "CNiB6DlC0BrIcDwBvBfNdFlBKdCjBEHBE6DtCiDnBIzB8CzBM2JJVKHZB9DFCABrBBBDACWKWJehCSBBKVKZmC3BGBgCA",
   "PDBCBcqBcDcjBHBbb1BKVKSNRuDoC3FjBmBFfAwIpBGBQC7BcKAIVqBRuBUbWM0B5BBCANsBgBYajBdACAIiBDAMvBODV",
   "ABAjBRBYTB/BGBABDBOBJHuBmBHCBCVBGBBBEDASAMEeJBACABlBBAZABAsB0BSDUCevBUBBA4FuBpBDkBvBUA7BqBNAn",
   "CalBG5FrBzGHCACHBBBXPABA+CHCmBQABAcAKnBHAVALtBTASoCnGgBfIBkBRAxBdwDGBBBlBVAZFBBBfOAnKSPABMBhB",
   "8DAvC5cmDuDRjGsyCgDPvhBRFZ68DFmS51Gdi3B4RHeRuCRdSvBQDfUFSwNsBzMqCFAiCMgCBBAc3/FI1mBpBJn3IDBGB",
   "BBiJPAdCCAODIrMkoCqDFMDIHJwzIA1PsBKGQAhKdSrBkPbkHdCAvPGBDBBBOBkGmEA0lBDBaBBBACABJBDBABAGAEABA",
   "BABCBBBACABABABABABBBACDBGBDBDBABJBQFCBEBQkqE/2pBgB5hEG9GCh0FOwpHPtTitC9QivBq6EF/iECKAiqBhDZv",
   "BAKAEAkBXBHBABABABABABABABABABABABABABABABABABABABABABABABABABABABBBABABABABABABABBBABABABABA",
   "BABABABABABABABABABABABABABABABABABACABABCCABACADBEACADCCACABABACABBBACADABACBCCGACACABABABAB",
   "ABABABABBBABABABABABABABABBCABADABABABABABABABABABABABABABABABABABABABABABABABABABABABABABGCA",
   "CBBAEABABABABkCBjBHBeEsEABADACDSAbiBBBDCBABABABABABABABABABABABEBACACBzBvBBABABABABABABABABAB",
   "ABABABABABABABAJABABABABABABABABABABABABABABABABABABABABABABABABABABACABABABABABABBBABABABABA",
   "BABABABABABABABABABABABABABABABABABABABABABABABABABABABABABABABABABABABABABABABABABABAwBoBz7C",
   "A7XFikCIBA1D/FhCABABABABABABABABABABABABABABABABABABABABABABABABABABABABABABABABABABABABABABA",
   "BABABABABABABABABABABABABABABABABABABABABABABABABABABABABABABABABABABABIBABABABABABABABABABAB",
   "ABABABABABABABABABABABABABABABABABABABABABABABABABABABABABABABABABABABABABABIIFKHIHIFKHIHINCH",
   "IHIHIEBBGADCBBIDCBIHKCBB5DANAQMtDADBDAbAEAEACBIDEAhBPEAraZm6BvBBADBBABABAEABBBHDABABABABABABA",
   "BABABABABABABABABABABABABABABABABABABABABABABABABABABABABABABABABABABABABABABABABABABBHABAEAM",
   "lBBAFAzoeABABABABABABABABABABABABABABABABABABABABABABATABABABABABABABABABABABABABClEABABABABA",
   "BABCBABABABABABABABABABABABABABABABABABABABABABABABABABABABABABABJBABACABABABABAEABACABCBABAB",
   "ABABABABABABABAFAFABABABABABABABAEABACADABABABABABAWCBABC1ZqBBNGvCg6TGMEphBZtmBnBoEjB7EKBOBGB",
   "BjOACCBpBBIloByB9DV65CfgsVf6sZZaGBRaZaDBABGBKaZaZaZaZaZaZaZaZabcYBFaYBFaYBFaYBFaYBFBA05BJBTGF",
   "lI9B0lChBwEwBJmxBJBBjEJmGJ8MJ2DJ2DJ2DJ2DJ2DJ2DJ2DJ2DJ2DJgDJ2DJmCJ2IJmCJm6BJmBJsJJgEJmFJGJ2FJ2",
   "CJmEJGJmuiBJmVJmBJmGJWJ2CJ2MJ24UJmsBJmkCJGJ8YJgEJ8BJwEJ2IJ2KJ2DJ2LJmDJGTsCJmNJmDJ2UJ2CJ2HJmCJ",
   "mNJ2uQJmpCJ2CJmEJ2QJ27XJ02CxBgqCJmNJ2PJ3HJ1aJ20EJmBsBBMAipBAuFBqPApgEAFAqgCBs/DAuwzBBBAdBdBDA",
   "CAKAoFBMApCAElEAi9HBSJABBTA/DA/uFA/rCKkBAvBAg9DAgFhBAdApqBAzEC0FArBC2HA9BABADBlJBk3BB2YAEBlYA",
   "mGBsGAFA6JBiLDiFBKBCBdC7FBhCB8dBJCkvDANAWBtNA8ndAuIBjHADA+LB2CB/CA4EBzECwEB5HAqzUBpFAdAhCA03C",
   "B9nBEsBD9FB1DD/DChEBGAQB4CBBBsDAqJB1DB1LBFOpDB5HClQABA7HB3CBkNB0VBqCBp5SBlEAhCBLApRBoJAmwTAov",
   "HAipBhCZlDWBGhBABABABABABABABABABABABABABABABABABABABABABABABABABABABACABABABABABABABACABABAB",
   "ABABABABABABABABABABABABABABABABABABABABBBABADBBABBBCCDBBBCDBBBBABABBBACABBBCBABBDAHBBBBBBABA",
   "BABABABABABACABABABABABABABABACBBABCBABABABABABABABABABABABABABABABABABABABABABABABABABABABAB",
   "AHBBBCABDBABABABAhJABADAIAGABCBABBBQBIjBACCDABABABABABABABABABABABAFACABBCyBwBABABABABABABABA",
   "BABABABABABABABABAJABABABABABABABABABABABABABABABABABABABABABABABABABABABBBABABABABABACABABAB",
   "ABABABABABABABABABABABABABABABABABABABABABABABABABABABABABABABABABABABABABABABABABABABABAClBp",
   "6ClBBAFAyW1CzkCA2LABABABABABABABABABABABABABABABABABABABABABABABABABABABABABABABABABABABABABA",
   "BABABABABABABABABABABABABABABABABABABABABABABABABABABABABABABABABABABABABAJABABABABABABABABAB",
   "ABABABABABABABABABABABABABABABABABABABABABABABABABABABABABABABABABABABABABABABAJHIFKHIHIFLABA",
   "BABAIHYHIHIHIELELDMELElIAEADCCCCADEGABABABDCDKBFAaPTAyZZw5BvBwBABCCABABABDBACAICBABABABABABAB",
   "ABABABABABABABABABABABABABABABABABABABABABABABABABABABABABABABABABABABABABABABABABABAIABAEAtq",
   "eABABABABABABABABABABABABABABABABABABABABABABATABABABABABABABABABABABABABAnEABABABABABABADABA",
   "BABABABABABABABABABABABABABABABABABABABABABABABABABABABABAKABABBBABABABAEABACABADABABABABABAB",
   "ABABABABEBEBABABABABABABABDBABBDAFABABABAYAr5VZlmBnBoEjB8EKBOBGBBq3ByB9EV65CfgsVfgtZZaZaZaABB",
   "CACBCDBHaZaBBDCHBGbBBDBEBADGbZaZaZaZaZaZeYhBYhBYhBYhBYhBA1pEhBugCZGZGZ"]

end Coverage.Text.Property
