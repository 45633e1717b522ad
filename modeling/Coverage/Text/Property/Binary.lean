/-!
# Properties that hold or do not hold

The properties of characters that hold or do not hold of each.
-/

namespace Coverage.Text.Property

/-- The names of the properties. -/
def binaryNames : List (List String) := [
    ["Alpha", "Alphabetic"], ["AHex", "ASCII_Hex_Digit"], ["Bidi_C", "Bidi_Control"],
    ["Bidi_M", "Bidi_Mirrored"], ["CI", "Case_Ignorable"], ["Cased"],
    ["CWCF", "Changes_When_Casefolded"], ["CWCM", "Changes_When_Casemapped"],
    ["CWL", "Changes_When_Lowercased"], ["CWT", "Changes_When_Titlecased"],
    ["CWU", "Changes_When_Uppercased"], ["Dash"], ["DI", "Default_Ignorable_Code_Point"],
    ["Dep", "Deprecated"], ["Dia", "Diacritic"], ["Emoji"], ["EComp", "Emoji_Component"],
    ["EMod", "Emoji_Modifier"], ["EBase", "Emoji_Modifier_Base"], ["EPres", "Emoji_Presentation"],
    ["ExtPict", "Extended_Pictographic"], ["Ext", "Extender"], ["Gr_Base", "Grapheme_Base"],
    ["Gr_Ext", "Grapheme_Extend"], ["Gr_Link", "Grapheme_Link"], ["Hex", "Hex_Digit"], ["Hyphen"],
    ["ID_Compat_Math_Continue"], ["ID_Compat_Math_Start"], ["IDC", "ID_Continue"],
    ["IDS", "ID_Start"], ["Ideo", "Ideographic"], ["IDSB", "IDS_Binary_Operator"],
    ["IDST", "IDS_Trinary_Operator"], ["IDSU", "IDS_Unary_Operator"], ["Join_C", "Join_Control"],
    ["LOE", "Logical_Order_Exception"], ["Lower", "Lowercase"], ["Math"],
    ["MCM", "Modifier_Combining_Mark"], ["NChar", "Noncharacter_Code_Point"],
    ["OAlpha", "Other_Alphabetic"], ["ODI", "Other_Default_Ignorable_Code_Point"],
    ["OGr_Ext", "Other_Grapheme_Extend"], ["OIDC", "Other_ID_Continue"],
    ["OIDS", "Other_ID_Start"], ["OLower", "Other_Lowercase"], ["OMath", "Other_Math"],
    ["OUpper", "Other_Uppercase"], ["Pat_Syn", "Pattern_Syntax"],
    ["Pat_WS", "Pattern_White_Space"], ["PCM", "Prepended_Concatenation_Mark"],
    ["QMark", "Quotation_Mark"], ["Radical"], ["RI", "Regional_Indicator"],
    ["STerm", "Sentence_Terminal"], ["SD", "Soft_Dotted"], ["WSpace", "White_Space", "space"],
    ["Term", "Terminal_Punctuation"], ["UIdeo", "Unified_Ideograph"], ["Upper", "Uppercase"],
    ["VS", "Variation_Selector"], ["XIDC", "XID_Continue"], ["XIDS", "XID_Start"]]

/-- The ranges of the characters with each property, packed as groups of how many characters lie
between two ranges and how far a range extends. -/
def packedBinaries : List String :=
  ["qvBhCZGZvBAKAEAFWBeBpOELOEHABA2CAdRBBCDBAGABCBABTByCBqEIlFBlBCAGoBnBNBABBBBBAIaEDdKF3BBGOlDBH",
   "EHECKCCAQvBNkDYgBJBEAFXCSTYHKFXBFIAIpBKLDGGrCBPBCEONSBHCBCVBGBADDDHCBCBBAIAEBBEMBKAECBFEBCVBG",
   "BBBBBBEEEBCBEAHDBARFLCBIBCBVBGBBBEDIBCBBDAPDVDECBHCBCVBGBBBEDHCBCBJBEBBENAQBBFDCBDDBBABBDBDCD",
   "LEEDCBCDAGAoBMBCBWBPDHBCBCIBBCCACDcDBHBCBWBJBEDHBCBCIBGBBDNCMMBCBoBCHBCBCBAFDHEWFBCBRDXBIBACG",
   "IFBABHSBN5BFGGAzBBBABEBXBABSBCCEBAGAODgBA/BHBjBESEPBjBjC2BBACEQ/BKDClBBAFACqBBsKBDCGBABDCoBBD",
   "CgBBDCGBABDCOB4BBDCiClBPQ1CCFDrTCQBZFqCDKHTLUMTMMBCBBMzBCSOAEAjC4CHqBFlCKeBLEIXdCELrBEZ2BbE+B",
   "CTyBAXBLCxBzBBOBHzBpBCDKrBBKO2BWCKjBCKFqBCCpBDBFBBDAF/FThBL1ICFClBCFCHBABABABeC0BBGBADCBGDDCF",
   "EMFCBG0DANAQMlDAEACJBADEGABABABDBKCDFEEARoBtZzB24BkHGDDBMlBBAFAC3BHAQWJGBGBGBGBGBGBGBGBfvBA1O",
   "CZIHECEE1CGCB5CBDFqBB9CRfwBPgQ/tGgCs0VjCtBCsIDPKBUuBFHDwDnBICmDCiCCBBABHVTBgBYzBMjCBAsBFDABCK",
   "gBFiBNcDyBBLPAQPKEB2BJNSWDkCBABAYCCPCDLFCFCFJGBGBqBBNG6DVj9KMWEwBkoItLCpDmBGMEFLBMBEBABBBBBrD",
   "hBqLS/BC1BoBL0DEBmEkBZGZL4CDFCFCFCCjBLBZBSBBBOCNiB6DlC0BrIcDwBvBfNdFqBFdCjBEHBEqB9ESjBEjBEnBI",
   "zBMKBOBGBBBKBOBGBBDzBM2JJVKHYFBpBBIlCFCABrBBBDACWKWJehCSBBKVKZmC3BGBgCDBBFHBCBcqBcDcjBHBbb1BK",
   "VKSNRuDoC3ByBNyBNnBiBbDAFW6HpBBBDBQC3BADcKAIVqBRuBUbWJlCrBEK4BJANYXyBRDIiBDAJ/BBDJBKABAjBRBhB",
   "CAGD+BGBABDBOBJH4BXDBHCBCVBGBBBEDHCBCBDAGAFGcJBACABlBBJBACABDBBDABAsBhCBCBDUCehCCBBA4F1BCGZFi",
   "B+BBADA7B1BCAnCaCNVG5F4BnD/BfHCACHBBBdBBCBCD9CHCtBCFBABBbyBCJRnCFASoCnGgBfIBsBBGBAxBdCVBNpCGB",
   "BBrBDABBBCBACBYFBBBkBBBBDBAnKWJQBoBDCvDAvC5cmDuDRjGsyCgDPvhBRFZ68DFmS51GuBx2B4RHeRuCRdSvBQDfU",
   "FSwNsBzG/BgEqCE4BHQgCBBAMBO3/FI1mBpBJn3IDBGBBBiJPAdCCAODIrMkoCqDFMDIHJEAh7F0CBmCBBCACBCDBLBAB",
   "GBgCBDCHBGBbBDBEBADGBzKCYBYBeBYBeBYBeBYBeBYBH05BeGF1GGBQCGBBBEF9BhBAwDsBKGQAhKdSrBkPbkHdCAvPG",
   "BDBBBOBkG7BjCDADA0lBDBaBBBACABJBDBABAGAEABABABCBBBACABABABABABBBACDBGBDBDBABJBQFCBEBQ0TZGZGZ2",
   "zD/2pBgB5hEG9GCh0FOwpHPtTitC9QivBq6EF/iEGwBJHFaFI8wBAxvGBaE3BDkHoBBSABAcABAdABAtBAPA+zDD96BB8",
   "sCBKB2BBOBxFAgGDDFDADBDDBDBABAEIFABRFDJBBABHBfCDFAJBCSFBJECBEXCPIDUBHB9hBNqCACDBBBCFDFCDNzMVC",
   "FBNIAHFDAEEBBCEEABCCBKFCBMSBDCABACABDFBGCYBLBEDBBCBEqBCHBnBFABADEFCEADEBAgIAjQDDBBBOBCJrBHrNJ",
   "CH9xzBFFBiFBSABAcABAdABABBBB371BA5BA5BA5BA5BAocnBAGALAjBABAnCAEABAEACB3P/FEBEAJBBA7HGvGAFAxBs",
   "BBABBBBBAsBALFKKBAjBAKUQAlDHBJBDhBABAea7CK6BKEACAYXrBCsBAHBFIpB5B3BABAEHEADGKBNAPA6BAEDIAUBaA",
   "CB5BAEBEBCCDAeBDALB5BAEEBBEAUBWFBA6BACABDIAHBLBeA9BAMAyBADA3BABCFCBDHBLBdA6BACAGAFBUBcB5BBEDI",
   "AUBdAoCAHCBA6CACGLIiDACIJABGpCBbABABA3BNBEBBFKBjBJAmDDBFBBCBZBECQDNACBGAPA+CAgTCydCdBeBeBgCBB",
   "GIACKDAFAtBEzBAhCBiBA2DCEBJAGC7GBCA6BABGBABACHGJCAnBAIexBDwBABEBAFAoBIMBgBDCBBC4BABBDABC6BHCB",
   "gCFyCCBMBGEAGADByB+BNAiBkD9NABCLCNCNCNBMEIBKACACExBEBJBANAQMzBgBr8CBxDC9DAPAgDfvBA1OAkBDDEFA9",
   "CF9CC24bAinBFuIAiDDBJBAcDwCBOhBuCAXCnDCDBIADAEAZBFA3EBaRNAmBHZKuBCwBACDCBRAVBiCFCBCBMAIAjBALA",
   "zBABCCBFBBAbAOBFBBAkDEJC5DACAEAw5TAzEQ9RPDAMPiBACApFAHAGALAjBABAvBAtBBjCAVChQAiHA1EElgBFBpBBI",
   "mSCBBFDoBCEAlFB9RDmBAaEBA7JBvCDmCKxBD7DA2BOpBACBKCxBDCBCAEAKAyBCkBEBH+BAMB0BIKDCA/CCCABBGACA9",
   "EADHVB5BBDAlBGDEmCFNABABAOB1CHCCBAXA0CFBAEBBBuHDGBBBbB1CHCABBqDABACFBAlDABACDBEjIIBBgIBBAEAwE",
   "DCBEAgBJoBFCDIAJFCCuBMBB2MGBFBAyCVCGBBBB6DFDABBBGBAoCBDABA7KBLB0BEFABAXA1mFQGOomLLDCguCE7BGJD",
   "8PCoBBiPA/BQgCBBBrgQDBGBB+kDBBD8yEtBCWgRCJPCGeD0EC79B2BExBIAOAWEBOwqBGBQCGBBBEF9BhBAgFNwLA9BD",
   "7PE+HBgXGtDHv1CEhgjYAe/CgEvH+JhCZGZvBAKAEAFWBeBiGBDEvGCiBHBeEgDAqBDCBCDBAGABCBABTByCBqEIlFBlB",
   "JoB34ClBBAFACqBBDgV1CCFikCKFqBCCgC/FgC1ICFClBCFCHBABABABeC0BBGBADCBGDDCFEMFCBG0DANAQMlDAEACJB",
   "ADEGABABABDBFEACDFEEARfDBxZzB24BkHGDDBMlBBAFAyoetBSdkElDDDB9BCBBABHVEBC1ZqBBNGvCg6TGMEpgBZGZl",
   "lBvCgDjBEjB0DKBOBGBBBKBOBGBBjOACCBpBBIlmByBNyB9CVKV64C/BgrV/BgsZ0CBmCBBCACBCDBLBABGBgCBDCHBGB",
   "bBDBEBADGBzKCYBYBeBYBeBYBeBYBeBYBH05BJBTGFlI9BykCjCs/BZGZGZknBhCZ6CAKWBHgBABABABABABABABABABA",
   "BABABABABABABABABABABABABABABABABABACABABABABABABABABBBABABABABABABABABABABABABABABABABABABAB",
   "ABABABBBABABABBBABBBCCDBBBCDBBBBABABBBACABBBCBABBDAHBBBBBBABABABABABABABACABABABABABABABABACB",
   "BABCBABABABABABABABABABABABABABABABABABABABABABABABABABABABABAHBBBCABDBABABABA2HAqBABADAIAGAB",
   "CBABBBQBIWAMCDBBABABABABABABABABABABABABBCBBABBCyBwBABABABABABABABABABABABABABABABABAJABABABA",
   "BABABABABABABABABABABABABABABABABABABABABABABABBBABABABABABACABABABABABABABABABABABABABABABAB",
   "ABABABABABABABABABABABABABABABABABABABABABABABABABABABABABABABAClBwBA44ClBBAFAqZFikCJGqBCCgKA",
   "BABABABABABABABABABABABABABABABABABABABABABABABABABABABABABABABABABABABABABABABABABABABABABAB",
   "ABABABABABABABABABABABABABABABABABABABABABABABABABABABAFBCABABABABABABABABABABABABABABABABABA",
   "BABABABABABABABABABABABABABABABABABABABABABABABABABABABABABABAJHIFKHIHIFLABABABAIHQvBCCCFFCCF",
   "LDMEFCCFpJADBGAtBPTAyZZw5BvBwBABCCABABABDBACAICBABABABABABABABABABABABABABABABABABABABABABABA",
   "BABABABABABABABABABABABABABABABABABABABABABABABABABAIABAEAtqeABABABABABABABABABABABABABABABAB",
   "ABABABABABABATABABABABABABABABABABABABABAnEABABABABABABADABABABABABABABABABABABABABABABABABAB",
   "ABABABABABABABABABABABABAKABABBBABABABAEABACABADABABABABABABABABABABEBEBABABABABABABABDBABBDA",
   "FABABABAYA6bvCg6TGMEpgBZlmBnBoEjB8EKBOBGBBq3ByB9EV65CfgsVfg1ehBoIhCZGZ6BAKWBeB/BBzCBbCNCBBAE8",
   "CBRGaBBBABBDBBDBECABBCAHACABBDFFAKBmFAqBDCBDCBAGABCBABTBuBDgBBEBkEIlFBlBKmB44ClBBAFACqBCCgV1C",
   "CFikCKFqBCC5FADAQAxD7ECAB1DCFClBCFCHBABABABeC0BBGBADCBGDDCFEMFCBGpJADBGAbARfDBxZzB24BwDBBBBHl",
   "DHDDBMlBBAFAyoetBSbmENC9BJODCCEBYBdCBBABHYB8aAcvCg6TGMEpgBZGZllBvCgDjBEjB0DKBOBGBBBKBOBGBBj2B",
   "yBNyB9CVKV64C/BgrV/Bg0ejCsmBhCZlDWBGhBABABABABABABABABABABABABABABABABABABABABABABABABABABABA",
   "CABABABABABABABACABABABABABABABABABABABABABABABABABABABABABABABBBABADBBABBBCCDBBBCDBBBBABABBB",
   "ACABBBCBABBDAHBBBBBBABABABABABABABACABABABABABABABABACBBABCBABABABABABABABABABABABABABABABABA",
   "BABABABABABABABABABABABAHBBBCABDBABABABAhJABADAIAGABCBABBBQBIjBAIABABABABABABABABABABABAFACAB",
   "BCyBwBABABABABABABABABABABABABABABABABAJABABABABABABABABABABABABABABABABABABABABABABABABABABA",
   "BBBABABABABABACABABABABABABABABABABABABABABABABABABABABABABABABABABABABABABABABABABABABABABAB",
   "ABABABABABABABABAClBp6ClBBAFAyW1CzkCAGqBCCgKABABABABABABABABABABABABABABABABABABABABABABABABA",
   "BABABABABABABABABABABABABABABABABABABABABABABABABABABABABABABABABABABABABABABABABABABABABABAB",
   "ABABABAJABABABABABABABABABABABABABABABABABABABABABABABABABABABABABABABABABABABABABABABABABABA",
   "BABABABABABAJHIFKHIHIFLABABABAIHYHIHIHIELELDMELEpJADBGAtBPTAyZZw5BvBwBABCCABABABDBACAICBABABA",
   "BABABABABABABABABABABABABABABABABABABABABABABABABABABABABABABABABABABABABABABABABABABABABABAI",
   "ABAEAtqeABABABABABABABABABABABABABABABABABABABABABABATABABABABABABABABABABABABABAnEABABABABAB",
   "ABADABABABABABABABABABABABABABABABABABABABABABABABABABABABABABABAKABABBBABABABAEABACABADABABA",
   "BABABABABABABABEBEBABABABABABABABDBABBDAFABABABAYAr5VZlmBnBoEjB8EKBOBGBBq3ByB9EV65CfgsVfg1ehB",
   "unBhDZ6BApBXBHBABABABABABABABABABABABABABABABABABABABABABABABABABABABACABABABABABABABBBABABAB",
   "ABABABABABABABABABABABABABABABABABABABACABABCCABACADAFACADCCACABABACAEACADABACADABAEABBBBBABA",
   "BABABABABABABBBABABABABABABABABCBABADABABABABABABABABABABABABABABABABABABABADABABABABABABABAB",
   "AIACBBAEABABABABFBBBABBDBBDBECABBCAHACABBDFFAKBmFArBABADADCSAbiBBBDCBABABABABABABABABABABABEB",
   "ACACA0BvBBABABABABABABABABABABABABABABABABAJABABABABABABABABABABABABABABABABABABABABABABABABA",
   "BABACABABABABABABBBABABABABABABABABABABABABABABABABABABABABABABABABABABABABABABABABABABABABAB",
   "ABABABABABABABABABABAxBmBwzDFikCIBAuHADAQAyDABABABABABABABABABABABABABABABABABABABABABABABABA",
   "BABABABABABABABABABABABABABABABABABABABABABABABABABABABABABABABABABABABABABABABABABABABABABAB",
   "ABABABGFABABABABABABABABABABABABABABABABABABABABABABABABABABABABABABABABABABABABABABABABABABA",
   "BABABABABIIFKHIHIFKHIHINCHIHIHIEBBGADCBBIDCBIHKCBB2KAhBPEAraZm6BvBBADBBABABAGACAKABABABABABAB",
   "ABABABABABABABABABABABABABABABABABABABABABABABABABABABABABABABABABABABABABABABABABABABAIABAEA",
   "MlBBAFAzoeABABABABABABABABABABABABABABABABABABABABABABATABABABABABABABABABABABABABAnEABABABAB",
   "ABABADABABABABABABABABABABABABABABABABABABABABABABABABABABABABABABAKABACABABABABAEAEABBCABABA",
   "BABABABABABABALABABABABABABABAEABACADABABABABABAaA8aAcvCg6TGMEphBZtmBnBoEjB7EKBOBGBBj4ByB9DV6",
   "5CfgsVfi1ehBwnBhDZ6BApBXBHBABABABABABABABABABABABABABABABABABABABABABABABABABABABACABABABABAB",
   "ABABBBABABABABABABABABABABABABABABABABABABABABABABACABABCCABACADAFACADCCACABABACAEACADABACADA",
   "BAFBBBBBBABABABABABABABBBABABABABABABABABBBBBADABABABABABABABABABABABABABABABABABABABADABABAB",
   "ABABABABABAIACBBAEABABABABFBBBABBDBBDBECABBCAHACABBDFFAKBmFArBABADADCSAbiBBBDCBABABABABABABAB",
   "ABABABABEBACACA0BvBBABABABABABABABABABABABABABABABABAJABABABABABABABABABABABABABABABABABABABA",
   "BABABABABABABACABABABABABABBBABABABABABABABABABABABABABABABABABABABABABABABABABABABABABABABAB",
   "ABABABABABABABABABABABABABABABAxBmBo6CqBCC4XFikCIBAuHADAQAyDABABABABABABABABABABABABABABABABA",
   "BABABABABABABABABABABABABABABABABABABABABABABABABABABABABABABABABABABABABABABABABABABABABABAB",
   "ABABABABABABABABABABABGFABABABABABABABABABABABABABABABABABABABABABABABABABABABABABABABABABABA",
   "BABABABABABABABABABABABABIIFKHIHIFKHIHINC0BBBEABADCBBEADDCBIHKCBBEAxKAhBPEAraZm6BvBBADBBABABA",
   "GACAKABABABABABABABABABABABABABABABABABABABABABABABABABABABABABABABABABABABABABABABABABABABAB",
   "ABABABABABAIABAEAMlBBAFAzoeABABABABABABABABABABABABABABABABABABABABABABATABABABABABABABABABAB",
   "ABABABAnEABABABABABABADABABABABABABABABABABABABABABABABABABABABABABABABABABABABABABAKABACABAB",
   "ABABAEAEABBCABABABABABABABABABALABABABABABABABAEABACADABABABABABAaA8aAcvCg6TGMEphBZtmBnBoEjB7",
   "EKBOBGBBj4ByB9DV65CfgsVfi1ehBwBtBA8qBAzBAhyDAlgBApgCF9BAnBAPAmMAkgDACAfBEAcA+NATAvDAwszBBlBAK",
   "ApFAgzDA+JAiBtFAhVAsWAi6CBzyBB1CE7/BEaExBP0nEA7kzBPvHAgFAvCInlvBDvmFHl0rY//DQpKAppBAjoCABAphC",
   "BlmCF5VB2m3bAuN+CABAnCAGAEACB3P+EBHFFRBEAJB9HExGA3BsBBABBBBBAjEHEBmEBEBDCjCa7CK6BKiBB+DHpBJQb",
   "9BAQADDcAqCAQAuDAQAuDAQAvBC8BAQAHA3DAuDAQAuDAQAtDBQA8DAvDAMFBArDANErCBbABABAEBiCCBB+BAwDABBoB",
   "BEEZGBAKBhWC0dBeA0EKJA7KCkJAUHCAwBOCKoDAPAmBI2BB6BALBiCBgCFyCYEAGACCyB+BwBjBFLlBK9NABCLCNCNCN",
   "BwnDC9JA6PFpDD/CAyrdAMBBAcByCBOhBmDCtDBMAlBA3EAbR5BDkBA/CAMAkBA1EChCDzBAkDEJCgEBw5TAhYPuIABAv",
   "BAtBBjCA8XA/kBFBpBBI9TCEAlFB7RFmBAaEvMCmCKxBDgGApBAoCB4DB+BAsCAJCoDByFBwCBQAYGDE5CCBBNB/CADA7",
   "DB7HB+DA2DBzDAtIBiIBEA8EAzCASAxCAlNAiIABBxCApNBXAsnFO5mLAguCE7BG0RBiRQwCB+/PDBGBBh4HtBCWgRCDF",
   "IHCGeDi0D9BiGG3LA9BD+XBgXGtDCBCsJjBAGAFJvDAEAt8HAMA4GAWA6CFPBvLBMAmFAZKECnGAnHBKAJA6BDBEJACAC",
   "BCAEACABBCADADBICFABAFLLBCABBBASACBSFBABBDBFACBEBLBFBCAFBBABBUBFFBDCAEACACFBACABABAGADAGAKBPA",
   "CAEABAECBALBwBCJAOAOA0LBvOCTBzBAEA6mBAMA5SABAqrvDAqGAgFBMBOACJrCZBBXAUACIVBuFhBCvDCBBCCyCCCBm",
   "IB+BLFBXHBCHMACDCAEBNBCAIBJAFCMCICCABAEAGADAG1CwBlCFHCCEJDABBDACJjHLEA7IuBBJB4FwDMDJF3BHOCKGI",
   "UjBAGAFJz+HA1GArp3BA2+8BZ7PEwtBDszhY/CC7/8DEwC9wJA7GAQD3jzDA8BCCACC1DBCKVSDAECBCHABAYApGBEAVA",
   "EBuFCDEzCAQCJALA/RACAIHGAJJCC4BA9BBBBBARCBMlHCqBIgF64IBtGDDACApQBVByBLrBATANAIBRBFBIAFAVAHBBA",
   "EACAHAEBcAjBABAECBA9BCYAOA7aBzBAEAulxDAqGA+FACJrCZBAYAUACEBCVBuFgBMIBlCBVMqBEEMQDADmCBAB6FC+B",
   "NDBXSAaBNA2C0CwBlCGADCCCEDLBHIjHLEA7IuBBJB4FwDMDJF3BHOCKGI4JpFAEAt8HAMA4GAWA6CFPBvLBMAmFAZKEC",
   "nGAnHBKAJA6BDBEJACACBCAEACABBCADADBICFABAFLLBCABBBASACBSFBABBDBFACBEBLBFBCAFBBABBUBFFBDCAEACA",
   "CFBACABABAGADAGAKBPACAEABAECBALBwBCJAOAOA0LBvOCTBzBAEA6mBAMA5SABAqrvDAnBDkDLPBPAOBlBJwDBMBOAC",
   "JT3BbOKAUACIBDJWG7FCvDCBBCCyCCCBDF9HB+BLFBXHBCHMACDCAEBNBCAIBJAFCMCICCABAEAGADAG1CwBlCFHCQDAB",
   "FCM6GlBMD4BHKFoBHeBMDCNJmBMuBBJB4F4CHOxEgI9fyC3FA4QBubA5NA2TApEA5CAwXA/DAjqCA4BAjTAuMAkCAp8EA",
   "rBEnDB9CC24bA2vBAieAWApEAsDAVB7jVAwgCBruBAbAEAnmBAlJA0DByPCvmBAplUB8kBBBA4qcBxlBA0aC83BgB+ChB",
   "MBxSwDHCFEGBABTB/GHlFBlBCxBCCuBABACACAJaEFRJLABtBVPBkDIAGBCAEfCABdd4CLAOqBJGDXEAJADAHOBYFABKF",
   "eRpB5B2BBABDIDBCHJCcBBBHCBCVBGBADDDABBGBCBBANBBCEXFABFEBCVBGBBBBBBECYDBAHJCCBAMABIBCBVBGBBBED",
   "DIABBDAPBELHAIBBHCBCVBGBBBEDACAGBCBPBBCERLABFDCBDDBBABBDBDCDLFABBDCBCDAVUGCBHBCBWBPDADDTCCACB",
   "EJHJBKBCBWBJBEDBCABBYBBBEJBCOKBCBoBCABBFCBCBBECBJEZCBBRDXBIBACGJBGGHJCCMvBBBLHIMlBBBABEBXBABJ",
   "BBJACEBAJJCDgBXCaBABABNBjBSAFACExBHBFBMlBsBEAGACBCYCDDPEMBBCFBOBnBBAFAC4LBDCGBABDCoBBDCgBBDCG",
   "BABDCOB4BBDCiCFcDZG1CCFC8UD4CHRNSDBJROMBCPzBCAHHBBLIDJGJGKFJG4CHEChBBAFlCKeEDCCEBBFHADpBCELrB",
   "EZGKD4BCBD3BBAJABBIFNJGJGN2CvBKDDHBcJLCfEBG3BBACCBANvBIBFOD9BFqBCKLANAHDBFBCCAF/FgC1ICFClBCFC",
   "HBABABABeC0BBOBNCFBSCCBIBKFXHwBQBCaBMDgB/BrEE5UWKVz4BCfB3KDBFsBBAFAC3BHBPWJGBGBGBGBGBGBGBGhB9",
   "CiBZB4CM1Ga5BGPB1CEkDFqBB9CB1CJvBBszcD2BJ7KUuBEAKfCvCCFItGCBBABHVPBCBDBYCEEJG3BIjCKLYMBlBIYLA",
   "MdGvBBBEBCBBMBKEGBYBoBGBCBLCBHBACJCfByBBADBCECABAYQCHLFCFCFJGBGB7BE0DBBBDDJGj9KMWEwBkoItLCpDm",
   "BGMEFABXBEBABBBBB8DQ8NC1BHAgBPQJWiBBSBDEEBmEE8ECeDFCFCFCCDGBGNBCLBZBSBBBOCNiB6DFCEsBD3CBMDAvB",
   "sBjEcDwBQaEjBJdFlBKdBkBENqB9ECJGjBEjBEnBIzBLLBOBGBBBKBOBGBBDzBM2JJVKHYFBpBBIlCFCABrBBBDACWBnC",
   "IIwBSBBFgBDaFAgC3BETCuBPDBCBcKIHIH/BgBkBGLJ1BDcCaFZHDMGwCoC3ByBNyBHpBMJGlBIXIBwGeBpBDACBQC7Bn",
   "BIVLIWREDmBbUWJAB1BPGEdBBCAMwBEBCBBDOYHJJjBFAJRIiBBCLzBJABHEBBPBTLRBbDBEFBB/BGBABDBOBKGuBBCNJ",
   "IBBHCBCVBGBBBEDABABDCBCBDAMGcJBACABlBBABBPABBDABCBBnB3BIBDABUBABCevBBBGABBBACACDIJmFuBBBGDCAC",
   "akByBIBBACDLJGMTqBBABBIBGJGTcaDABBEAJW5FuBJACAkDyCMHCACHBBBXBEBBGDBCJJmCHCpBIDBDbAKnBGBEHJAGB",
   "DtBNACINoCHJ2FhBOJGIBlBOABFKcDfZAHACArCGBBBlBVAJJGFBBBkBEBBABAHJ2JSCDJOBjBIBDW2CAPxBN6cmDuDBE",
   "LjGsyCiDNvhBRFZ68DFmS51GdMCDJm2B4RHeBJEwCBJGdHAKvBHOKJBGBUFSwN5BmG6ClDqCF3BLMgCDc3/FI1mBpBJn3",
   "IDBGBBBiJPAdCCAODIrMkoCqDFMDIHJCACAg7D5HGzN8EzD8B1HKmBC7BFCWBHdE8BVhCDA6DTMTM2CJYnE0CBmCBBCAC",
   "BCDBLBABGBgCBDCHBGBbBDBEBADGBzKCjJCxR3BDyBHBNBG0jBeGFlI9ByEsBKGCJEBgKdSrBEJFAwObEJ2GdCKEAgPGB",
   "DBBBOBkGCIwBjCHAEJEBxYjCsC8BiGDBaBBBACABJBDBABAGAEABABABCBBBACABABABABABBBACDBGBDBDBABJBQFCBE",
   "BQ0BBuIrBEjDMOCOBOBkBKtF4BcNrBEIHBOF6E3eEQDMD2DE+CGLEAPLE3BIJGnBIdCLEB+BzKMNCMDJF3BHOCKGIHyEB",
   "lDmgB/2pBgB5hEG9GCh0FOwpHPtTitC9QivBq6EF/iEuXgYvDzIGnIsBBABBBBBAoCKwBUQAlDGCFCBBDjBAea7CK6BIJ",
   "AYDBIBCBErBC7BIqBXBf3BABAEHEADGKBdA6BABACDIAJAKBaACB5BAEBEBCCDAeBDALB5BAEEBBEAUBWFBA6BABBBDIA",
   "HCKBeA7BABAMAJAoBADA3BABCFCBDHBLBdA6BACBBADCBDHBLBcB5BBBACDIAJAKBdAoCAEACCBAIAxCACGMHiDACILGp",
   "CBbABABA3BNBEBBFKBjBJAmDDBFBBCBZBECQDNACBGAPA/VCydDcCdBeBgCBBGIACKJAtBCBA1DBiBA2DCEBJAGC7GBCA",
   "6BABGBABACHGJCAwBexBDwBJECmBIMBgBDCF4BABBDABE4BHCB4ECBMBGEAGADBmG/BsQAjGgB+/CCtEAgDfqRFpDB0ud",
   "DBJgBBwCBwIADAEAZBFA3EBaRNAmBHZKBAsBCwBACDCBCAkBAjCFCBCBMAIAvBAzBABCCBFBBAqBBIAuHACAEAw5TAhXP",
   "QPuLB9SAiHA1EEm0BCBBFDoBCEAlFB9RDhCE9JBvCDmCKxBD7DA2BOpBACBKCxBDCBHA9BCkBEBH+BAMB0BIBAIDCA/CC",
   "CDGACA9EADHVB5BBBABAMAJAOGDEjCACFBACABCECBAOB1CHCCBAXAxCACFBACABBBBrHACDGBBBbB1CHCABBqDABACHl",
   "DABACDBEjIIBB1HAKDEAwEDCBEAgBJoBFCDIAJFCCuBMBB2MGBFBAyCVCGBBBB6DFDABBBGBAoCBDABA7KBLB0BEFCXAl",
   "nFAGOomLLDCguCE7BG4gBA/BDxCALBrlTBhzEtBCW+QEDFIHCGeD0EC79B2BExBIAOAWEBOwqBGBQCGBBBEkDAgFG3LA9",
   "BD8PD+HBgXGtDG12lY/CgEvH0DtqCA/DA/DA/DA/DA/DA/DA/DAtDBQA8DAvDA/DApGA0FB52BBeA9EAtUAjHAlDBmCBr",
   "sEAm0eAlBA3EAuEAsDA1JA2HAxyXAmwBApBAOA5BA5DBrEA0DA0FAiDAgECxDA/DA8HA/DA2DA0DAtIAjIBhFAzCASAxC",
   "AlNAkIBxCApNBsvQAMwBJHFaFp1/BJHFaFUtBA/DA8mBA7zEApgCBlwDAjXAnrzBApFA3CAkByFBFA29HADKBOzLAEAWA",
   "iltDAZAfAZAfAZAfAZAfAZAaiwIAEAWAiltDAZAfAZAfAZAfAZAfAZAyxBwBJHZEABZvBAKABACAFWBeBpOELOEHABAR0",
   "DBBCDBAGEBABTByCBqEBEClFBlBCAGoBIsBBABBBBBAIaEDdKFpCElDBHCJBSCAQ6BCkDO1BEACACtBSbEKFXBFIqCBgE",
   "CJBSBHCBCVBGBADDCICBCDIAEBBECLKABACCBFEBCVBGBBBBBBCABEEBCCDAHDBAHPLCBIBCBVBGBBBECJBCBCCAPDCJJ",
   "GBCBHCBCVBGBBBECICBCCHCEBBECJBAQBBFDCBDDBBABBDBDCDLEEDCBDCAGAOJQMBCBWBPCIBCBDHBBCCACDCJQDBHBC",
   "BWBJBECIBCBDHBGBBDCJBCMMBCByBBCBEFDHECJKFBCBRDXBIBACGDAEFBABHGJCBN5BFOBJnBBBABEBXBABWCEBABGBJ",
   "CDgBAXBGJLABABAEJBjBETBRBjBJA5BpCGtCClBBAFACqBBsKBDCGBABDCoBBDCgBBDCGBABDCOB4BBDCiCCCJIOPQ1CC",
   "FDrTCQBZFqCDKHVJVLTMMBCBBMzCDAEBCJhBCBKG4CHqBFlCKeBLELKnBCELrBEZGKlBbE+BBcCKGJNAINBPxBsCDJRIM",
   "zDM3BIJDwBCKFqBCCQCBmBF1QCFClBCFCHBABABABeC0BBGBADCBGDDCFEMFCBGPBxBBTAcANAQMzBMEADLRAEACJBACF",
   "GABABABPCDFEEARoB3zCkHGIMlBBAFAC3BHAPXJGBGBGBGBGBGBGBGBflQCZOBECEE1CCGB+CFqBB9CRfwBPgQ/tGgCs0",
   "VjCtBCsIDbUvBEJByDlBICmDCiCCBBABHV1BEATzBMlCKJGXDABwBCjBMcDgCOKGeB2BJNCJGWDoCYCCPCEKFCFCFJGBG",
   "BqBBNG6DBBCJGj9KMWEwBkoItLCpDmBGMEFLBMBEBABBBBBrDhBqLS/BC1BoBLEPQPDBYCgBEBmETJHZEABZK5CDFCFCF",
   "CCjBLBZBSBBBOCNiB6DlC0BoEAiEcDwBPAffNdFqBFdCjBEHBEqB9ECJGjBEjBEnBIzBMKBOBGBBBKBOBGBBDzBM2JJVK",
   "HYFBpBBIlCFCABrBBBDACWKWJehCSBBKVKZmC3BGBgCDBBFHBCBcCCEAgBcDcjBHBdZ1BKVKSNRuDoC3ByBNyBNnBIJGl",
   "BDEBW6HpBBBDBQC3BgBKAIgBfVqBUbWJmCfPJ7BHANYHJG0BBJEDIjBCAJkCEDBMBAjBRBkBGD+BGBABDBOBJH6BFJGDB",
   "HCBCVBGBBBEBJCBCCCAGAFGCGDELJBACABlBBJBACABDBHNBdqCFJEDelCBAIJmF1BCIXFiBgCDALJmB4BHJGTcaCOEJG",
   "G5F6BlDpCVHCACHBBBdBBCIMJmCHCtBCHBBb+BIAIpCDASoCnGgBPJGIBsBBIPJYdCVBNpCGBBBrBDABBBIIJGFBBBkBB",
   "BBFHJ2JWJQBoBDENK1CAvC5cmDuDRjGsyCgDPvhBQVK68DFmS51G5Bm2B4RHeBJGuCBJGdCEL2BJDMJJUFSwNsBDJmG/B",
   "gEqCE4BHQgCBBBLBO3/FI1mBpBJn3IDBGBBBiJPAdCCAODIrMkoCqDFMDIHJDBxiEJmQtBCW+QEDFIHCGeD0EC7N0CBmC",
   "BBCACBCDBLBABGBgCBDCHBGBbBDBEBADGBzKCYBYBeBYBeBYBeBYBeBYBHCxBgQ2BExBIAOAWEBOwiBeGF1GGBQCGBBBE",
   "F9BhBAwDsBDNCJEAhKeR5B2OpB2GqBlPGBDBBBOBkGLGpBrCEJmlBDBaBBBACABJBDBABAGAEABABABCBBBACABABABAB",
   "ABBBACDBGBDBDBABJBQFCBEBQ0pDJmgB/2pBgB5hEG9GCh0FOwpHPtTitC9QivBq6EF/iEwq3VvHqqBhCZGZvBAKAEAFW",
   "BeBpOELOEHABAhEEBBCDBAGABCBABTByCBqEIlFBlBCAGoBnCaEDtBqBjBBBiDBAPBHBKCCAQABdd4CLAYgBJBEAFVEAJ",
   "ADAXYHKFXBFRpB6B1BDASAHJPPEHCBCVBGBADDDAQANBBCOBKAIFEBCVBGBBBBBBfDBATCQIBCBVBGBBBEDASAPBXALHC",
   "BCVBGBBBEDAeBBCPARABFDCBDDBBABBDBDCDLWA0BHBCBWBPDAaCCACBeAEHBCBWBJBEDAfBBBPBRIBCBoBCAQAFCICYF",
   "FRDXBIBACG6BvBBBMG6BBBABEBXBABJBBJACEBAVDgBA/BHBjBbEzDqBUAQFEDDADBHCEMMARlBBAFACqBBsKBDCGBABD",
   "CoBBDCgBBDCGBABDCOB4BBDCiClBPQ1CCFDrTCQBZFqCDKHRNSOROMBCPzBjBAEAjC4CHoBBAFlCKexBdCELrBEZ2BWJ0",
   "ByCA9CuBRH2BdNBKrBajBpBCKjBCKFqBCCpBDBFBBDAF/FgC1ICFClBCFCHBABABABeC0BBGBADCBGDDCFEMFCBG0DANA",
   "QMlDAEACJBACFGABABABPCDFEEARoB3zCkHGDDBMlBBAFAC3BHAQWJGBGBGBGBGBGBGBGmRCZIHECEE1CEEB5CBDFqBB9",
   "CRfwBPgQ/tGgCs0VjCtBCsIDPKBUuBQeCvCnBICmDCiCCBBABHVPBCBDBWdzBOxB+BFDABBLbKWZcHuBcAQEBJKEBoBXC",
   "BHUWDADxBBADBCECABAYCCKHCMFCFCFJGBGBqBBNGyDdj9KMWEwBkoItLCpDmBGMEFABJBMBEBABBBBBrDhBqLS/BC1Bo",
   "BL0DEBmEkBZGZL4CDFCFCFCCjBLBZBSBBBOCNiB6DlC0BrIcDwBvBfNdFlBKdCjBEHBEqB9ESjBEjBEnBIzBMKBOBGBBB",
   "KBOBGBBDzBM2JJVKHYFBpBBIlCFCABrBBBDACWKWJehCSBBKVKZmC3BGBgCAPDBCBcqBcDcjBHBbb1BKVKSNRuDoC3ByB",
   "NyBNjBmBbJW6HpBGBQC7BcKAIVqBRuBUbWM0B5BBCANsBgBYajBdACAIiBDAMvBODVABAjBRBYTB/BGBABDBOBJHuBmBH",
   "CBCVBGBBBEDASAMEeJBACABlBBAZABAsB0BSDUCevBUBBA4FuBpBDkBvBUA7BqBNAnCalBG5FrB0D/BfHCACHBBBXPABA",
   "+CHCmBQABAcAKnBHAVALtBTASoCnGgBfIBkBRAxBdwDGBBBlBVAZFBBBfOAnKSPABMBhB8DAvC5cmDuDRjGsyCgDPvhBR",
   "FZ68DFmS51Gdi3B4RHeRuCRdSvBQDfUFSwNsBzG/BgEqCFAiCMgCBBAc3/FI1mBpBJn3IDBGBBBiJPAdCCAODIrMkoCqD",
   "FMDIHJm7F0CBmCBBCACBCDBLBABGBgCBDCHBGBbBDBEBADGBzKCYBYBeBYBeBYBeBYBeBYBH05BeGFlI9ByEsBKGQAhKd",
   "SrBkPbkHdCAvPGBDBBBOBkG7BjCHA0lBDBaBBBACABJBDBABAGAEABABABCBBBACABABABABABBBACDBGBDBDBABJBQFC",
   "BEBQkqE/2pBgB5hEG9GCh0FOwpHPtTitC9QivBq6EF/iEqBmgMBZIOCle/tGgC/vUgoWtLCpDqodAb3/FI1mBpBJnjJrM",
   "koT/2pBgB5hEG9GCh0FOwpHPtTitC9QivBq6EF/iEGw/LBCJxPACy/LBC+/LBCsgIBOgyDE7DEw3CCCA6nkBBCABBmqBh",
   "DZvBAKAEAkBXBHBABABABABABABABABABABABABABABABABABABABABABABABABABABABBBABABABABABABABBBABABAB",
   "ABABABABABABABABABABABABABABABABABABABACABABCCABACADBEACADCCACABABACABBBACADABACBCCGACACABABA",
   "BABABABABABBBABABABABABABABABBCABADABABABABABABABABABABABABABABABABABABABABABABABABABABABABAB",
   "GCACBBAEABABABABkCCiBHBeEgDArBABADACDSAbiBBBDCBABABABABABABABABABABABEBACACBzBvBBABABABABABAB",
   "ABABABABABABABABABABAJABABABABABABABABABABABABABABABABABABABABABABABABABABACABABABABABABBBABA",
   "BABABABABABABABABABABABABABABABABABABABABABABABABABABABABABABABABABABABABABABABABABABABABABAw",
   "BoBn6CqBBD4XFikCIBA1D/FhCABABABABABABABABABABABABABABABABABABABABABABABABABABABABABABABABABAB",
   "ABABABABABABABABABABABABABABABABABABABABABABABABABABABABABABABABABABABABABABABABIBABABABABABA",
   "BABABABABABABABABABABABABABABABABABABABABABABABABABABABABABABABABABABABABABABABABABABIIFKHIHI",
   "FKHIHINCHIHIHIEBBGADCBBIDCBIHKCBB5DANAQMtDADBDAbAEAEACBIDEAhBPEAraZm6BvBBADBBABABAEABBBHDABAB",
   "ABABABABABABABABABABABABABABABABABABABABABABABABABABABABABABABABABABABABABABABABABABABABABABA",
   "BBHABAEAMlBBAFAzoeABABABABABABABABABABABABABABABABABABABABABABATABABABABABABABABABABABABABClE",
   "ABABABABABABCBABABABABABABABABABABABABABABABABABABABABABABABABABABABABABABJBABACABABABABAEABA",
   "CABCBABABABABABABABABABAFAFABABABABABABABAEABACADABABABABABAWCBABC1ZqBBNGvCg6TGMEphBZtmBnBoEj",
   "B7EKBOBGBBjOACCBpBBIloByB9DV65CfgsVf6sZZaGBRaZaDBABGBKaZaZaZaZaZaZaZaZabcYBFaYBFaYBFaYBFaYBFB",
   "A05BJBTGFlI9B0lChB2IrBAQCfAdABAtBAEAlBAfA4WCCAaBCCvQCtwGAbCLADANAODVELEhCMEADBEESAEACJBACFGAD",
   "BCBBCBFDNBAkCXBFBBEBEfBAGBOrIIDUB6CAeaBAYALG9NBMJEFEBCBDEOABACFLHFB5BABAdDJCwK/BgI/PwBUCF8+zB",
   "A3ZFBAiFAQCdABAdABAjEAGDhtDBwzxB0CBmCBBCACBCDBLBABGBgCBDCHBGBbBDBEBADGBzKCjJCxBgwFDBaBBBACABJ",
   "BDBABAGAEABABABCBBBACABABABABABBBACDBGBDBDBABJBQFCBEBQ0BBS0yBBCAjEAGADBhPBBCDAfAkBwu/BfuQB+//",
   "BB+//BB+//BB+//BB+//BB+//BB+//BB+//BB+//BB+//BB+//BB+//BB+//BB+//BB+//BB+//BBqPjbMgSNBABBBBBA",
   "oCKwBMBGQAlDGEDCBEAjBAePmDKlDBDIBCBDqDA8BLDGGT2BBCOBBFCKBdC6BGCBCBKAKBdC6BEEBCBEAeBDALC6BHBCB",
   "BVBWCEC6BGCBCBJBKBeA7BEDCBCKAoBE5BGBCBCIBLBdC6BGBCBCIBLBPAMD6BGBCBCKAKBdCrCFBABHSB9BACGSAjDAC",
   "FBBQAjFSJKBjBuDLBACDXDECBCCGDDNLBAKD0zBBeBeBeBiCS8FBiBA2DLEI+GE5BJCTqCBLCxBEwBO8BCeICB5BKyBS8",
   "MhBr/Df0jeHiBBiLAIAXE4CByBPBA5BAmBEcLtBDwBLlBAjCNMAIBtBCyBABCCBFAsBEFAtHHz5TA3iCEm0BCBBFD0YDh",
   "CAhKBvCAjIC1BNtBBLCtBIJA9BCkBLSB5BCwBMOB8CICAGACA9EJXD6BGCBCBKAKB0CIBACABDBBnDMBCqDRtHGCGdByC",
   "OBAqDKnDNhIM3HFBBCBDABAuEGCFEAcJqBEBDSKuBN3MHBGzCVBN6DFDABBBCBADAiCEBBBD8KDJBBAwBGDC9uQQgxDAB",
   "2BHD9CBslTAh7IGBQCGBBBEkDA3lCAWvaAvwDBzyBBvlCA+nEA7xzBAvCInggaABdgD/DwHvwDiD+tCAYAmLAYAmDAYAo",
   "HABAEBBBJBnDAYA3DAPA1pCAeAggBAFABAFBlDAnCB4gBAhhEBjpeAsDA9uVBgxEA0DAoIAOAJAgDAJACABCFAgHAMAxH",
   "AmIA5TAMAjwBAulUBzrYBGFt1rY/CO3FAvWAh/DIozBAxxBBtnEApzzBAIlkGBxkCAVAs7DB4BqFAPA1PIHBeEgDA0BAh",
   "sDAvhD+BNAiBkBxVANAQMzGPwaZy8BB+weByGAhECDBibDJA2gXACCBpBBI1j2B9BsI+CAxbCCAaBCBghHAbCLAgBDYBO",
   "BhCMEADBEESAEACJBADEGADBCBBCBFDDFErCECDBBBBBABECBEBERCBBABGBAGBiJDoFBBAYARA9NBMIFEFBCBDEOABAC",
   "FYB5BABAdDJB2KBfJzMV/BDgBBjj1BABAEAzGABAhm1B0CBmCBBCACBCDBLBABGBgCBDCHBGBbBDBEBADGBzKCYBYBeBY",
   "BeBYBeBYBeBYBHCxBgwFDBaBBBACABJBDBABAGAEABABABCBBBACABABABABABBBACDBGBDBDBABJBQFCBEBQKgrIPmaZ",
   "gjzDZGZGZ4BhBOKGaDBAaDiBGBABBBABBEAEADAXAfA44HXIOCSBJxJvWgF1TerjBgQ/DhMCEYPAtozBBlIBKJESAkDAo",
   "8HBYBOgwBF3GAxBAgMBwCA6+hCAPAaiBAEAjEAPA86HHZBnwDApODNChxzBD9FAEA6CBGg0LZB4CM1GCmv8DZwFhBAMAQ",
   "ApqBAzEC0FArBC2HA9BABADBlJBk3BB2YAEBlYAmGB9EBtBAFA6JBiLDiFBKBCBdC7FBhCBkdAXBJCvlDCyJANAWBtNA8",
   "ndAuIBjHADA+LB2CB/CA4EBzECwEB5HAmxUACB7BADBpFAMAQAhCA03CB9nBEsBD9FB1DD/DChEBGAQB4CBBBsDAqJB1D",
   "B1LBFOpDB5HClQABA7HB3CBkNB0VBqCBp5SBlEAhCBLApRBoJAmwTAovHAkCpDBkGA5IAeA0BAUAgKAiDABApoGAzBANA",
   "DAkEA9EAlNA2GBy5CAl9pDByBByBByBByBByBByBByBByBByBByBByBByBBmkCAxJBaAUJESAkDAaA/uFA/rCKdBFAvBA",
   "g9DAoHhBAKABALBDA+ZAIAhQA5BAoCAOABC0FArBKBArHB2BFBHfAlIB0nBBsFAEF3JB1YHlYA8DCnCB9ECDAnBDCB6JB",
   "iLDiFBKBBCdC7FE+BBkdAXBJCvlDCyJANAEAKABBDBsNB7ndBtICjHE+LB2CB/CA3ECzEC/DAQB5HAmxUACB5BCBDpFAK",
   "ABALBDAhCACA6hBAwBAmkBAnGA2JB4EFkCF5CD4dEsBD9FGwDD/DChEBGAQB4CEsDAqJB1DCMBmLDDOpDB5HClQABA7HB",
   "3CBEB+MCtBAlUBqCBrpBE5vRBlEAhCCKApRBnJBmwTAnvHDiBggN/tGgC/vUuwWBBABBKABABBCC2uhC/2pBgB5hEG9GC",
   "h0FOwpHPtTitEq6EF/iEgpBhCZlDWBGhBABABABABABABABABABABABABABABABABABABABABABABABABABABABACABAB",
   "ABABABABABACABABABABABABABABABABABABABABABABABABABABABABABBBABADBBABBBCCDBBBCDBBBBABABBBACABB",
   "BCBABBDAHACACACABABABABABABABACABABABABABABABABACACABCBABABABABABABABABABABABABABABABABABABAB",
   "ABABABABABABABABABAHBBBCABDBABABABAhJABADAIAGABCBABBBQBIjBACCDABABABABABABABABABABABAFACABBCy",
   "BwBABABABABABABABABABABABABABABABABAJABABABABABABABABABABABABABABABABABABABABABABABABABABABBB",
   "ABABABABABACABABABABABABABABABABABABABABABABABABABABABABABABABABABABABABABABABABABABABABABABA",
   "BABABABABABABAClBp6ClBBAFAyW1CzkCAGqBCCgKABABABABABABABABABABABABABABABABABABABABABABABABABAB",
   "ABABABABABABABABABABABABABABABABABABABABABABABABABABABABABABABABABABABABABABABABABABABABABABA",
   "BABAJABABABABABABABABABABABABABABABABABABABABABABABABABABABABABABABABABABABABABABABABABABABAB",
   "ABABABABAJHIFKHIHIFLABABABAIHoCDMDMDMELDmIAEADCCCCADEGABABABDCDKBFAaPTAyZZw5BvBwBABCCABABABDB",
   "ACAICBABABABABABABABABABABABABABABABABABABABABABABABABABABABABABABABABABABABABABABABABABABABA",
   "BABABABABAIABAEAtqeABABABABABABABABABABABABABABABABABABABABABABATABABABABABABABABABABABABABAn",
   "EABABABABABABADABABABABABABABABABABABABABABABABABABABABABABABABABABABABABABAKABABBBABABABAEAB",
   "ACABADABABABABABABABABABABEBEBABABABABABABABDBABBDAFABABABAYAr5VZlmBnBoEjB8EKBOBGBBq3ByB9EV65",
   "CfgsVfgtZZaZaZaABBCACBCDBHaZaBBDCHBGbBBDBEBADGbZaZaZaZaZaZeYhBYhBYhBYhBYhBA1pEhBugCZGZGZIrgGC",
   "BAwv5BPw3gavHgyBwBJHZEABZvBAKABACAFWBeBpOELOEHABAR0DBBDCBAGEBABTByCBqEBEClFBlBCAGoBIsBBABBBBB",
   "AIaEDdKFpCElDBHCJBSCAQ6BCkDO1BEACACtBSbEKFXBFIqCBgECJBSBHCBCVBGBADDCICBCDIAEBBECLKABACCBFEBCV",
   "BGBBBBBBCABEEBCCDAHDBAHPLCBIBCBVBGBBBECJBCBCCAPDCJJGBCBHCBCVBGBBBECICBCCHCEBBECJBAQBBFDCBDDBB",
   "ABBDBDCDLEEDCBDCAGAOJQMBCBWBPCIBCBDHBBCCACDCJQDBHBCBWBJBECIBCBDHBGBBDCJBCMMBCByBBCBEFDHECJKFB",
   "CBRDXBIBACGDAEFBABHGJCBN5BFOBJnBBBABEBXBABWCEBABGBJCDgBAXBGJLABABAEJBjBETBRBjBJA5BpCGtCClBBAF",
   "ACqBBsKBDCGBABDCoBBDCgBBDCGBABDCOB4BBDCiCCCJIOPQ1CCFDrTCQBZFqCDKHVJVLTMMBCBBMzCDAEBCJhBCBKG4C",
   "HqBFlCKeBLELKnBCELrBEZGKlBbE+BBcCKGJNAINBPxBsCDJRIMzDM3BIJDwBCKFqBCCQCBmBF1QCFClBCFCHBABABABe",
   "C0BBGBADCBGDDCFEMFCBGPBxBBTAcANAQMzBMEADLRAEACJBACFGABABABPCDFEEARoB3zCkHGIMlBBAFAC3BHAPXJGBG",
   "BGBGBGBGBGBGBflQCZOBECEE1CCBCCB+CFqBB9CRfwBPgQ/tGgCs0VjCtBCsIDbUvBEJByDlBICmDCiCCBBABHV1BEATz",
   "BMlCKJGXDABwBCjBMcDgCOKGeB2BJNCJGWDoCYCCPCEKFCFCFJGBGBqBBNG6DBBCJGj9KMWEwBkoItLCpDmBGMEFLBMBE",
   "BABBBBBrDhBqEG5GS/BC1BoBJGPQPDBYChBABADABABABAB9DTJHZEABZK5CDFCFCFCCjBLBZBSBBBOCNiB6DlC0BoEAi",
   "EcDwBPAffNdFqBFdCjBEHBEqB9ECJGjBEjBEnBIzBMKBOBGBBBKBOBGBBDzBM2JJVKHYFBpBBIlCFCABrBBBDACWKWJeh",
   "CSBBKVKZmC3BGBgCDBBFHBCBcCCEAgBcDcjBHBdZ1BKVKSNRuDoC3ByBNyBNnBIJGlBDEBW6HpBBBDBQC3BgBKAIgBfVq",
   "BUbWJmCfPJ7BHANYHJG0BBJEDIjBCAJkCEDBMBAjBRBkBGD+BGBABDBOBJH6BFJGDBHCBCVBGBBBEBJCBCCCAGAFGCGDE",
   "LJBACABlBBJBACABDBHNBdqCFJEDelCBAIJmF1BCIXFiBgCDALJmB4BHJGTcaCOEJGG5F6BlDpCVHCACHBBBdBBCIMJmC",
   "HCtBCHBBb+BIAIpCDASoCnGgBPJGIBsBBIPJYdCVBNpCGBBBrBDABBBIIJGFBBBkBBBBFHJ2JWJQBoBDENK1CAvC5cmDu",
   "DRjGsyCgDPvhBQVK68DFmS51G5Bm2B4RHeBJGuCBJGdCEL2BJDMJJUFSwNsBDJmG/BgEqCE4BHQgCBBBLBO3/FI1mBpBJ",
   "n3IDBGBBBiJPAdCCAODIrMkoCqDFMDIHJDBxiEJmQtBCW+QEDFIHCGeD0EC7N0CBmCBBCACBCDBLBABGBgCBDCHBGBbBD",
   "BEBADGBzKCYBYBeBYBeBYBeBYBeBYBHCxBgQ2BExBIAOAWEBOwiBeGF1GGBQCGBBBEF9BhBAwDsBDNCJEAhKeR5B2OpB2",
   "GqBlPGBDBBBOBkGLGpBrCEJmlBDBaBBBACABJBDBABAGAEABABABCBBBACABABABABABBBACDBGBDBDBABJBQFCBEBQ0p",
   "DJmgB/2pBgB5hEG9GCh0FOwpHPtTitC9QivBq6EF/iEwq3VvH4qBhCZGZvBAKAEAFWBeBpOELOEHABAhEEBBDCBAGABCB",
   "ABTByCBqEIlFBlBCAGoBnCaEDtBqBjBBBiDBAPBHBKCCAQABdd4CLAYgBJBEAFVEAJADAXYHKFXBFRpB6B1BDASAHJPPE",
   "HCBCVBGBADDDAQANBBCOBKAIFEBCVBGBBBBBBfDBATCQIBCBVBGBBBEDASAPBXALHCBCVBGBBBEDAeBBCPARABFDCBDDB",
   "BABBDBDCDLWA0BHBCBWBPDAaCCACBeAEHBCBWBJBEDAfBBBPBRIBCBoBCAQAFCICYFFRDXBIBACG6BvBBANG6BBBABEBX",
   "BABJBAKACEBAVDgBA/BHBjBbEzDqBUAQFEDDADBHCEMMARlBBAFACqBBsKBDCGBABDCoBBDCgBBDCGBABDCOB4BBDCiCl",
   "BPQ1CCFDrTCQBZFqCDKHRNSOROMBCPzBjBAEAjC4CHoBBAFlCKexBdCELrBEZ2BWJ0ByCA9CuBRH2BdNBKrBajBpBCKjB",
   "CKFqBCCpBDBFBBDAF/FgC1ICFClBCFCHBABABABeC0BBGBADCBGDDCFEMFCBG0DANAQMlDAEACJBACFGABABABPCDFEEA",
   "RoB3zCkHGDDBMlBBAFAC3BHAQWJGBGBGBGBGBGBGBGmRCZIHECEE1CGCB5CBDFqBB9CRfwBPgQ/tGgCs0VjCtBCsIDPKB",
   "UuBQeCvCnBICmDCiCCBBABHVPBCBDBWdzBOxB+BFDABBLbKWZcHuBcAQEBJKEBoBXCBHUWDADxBBADBCECABAYCCKHCMF",
   "CFCFJGBGBqBBNGyDdj9KMWEwBkoItLCpDmBGMEFABJBMBEBABBBBBrDhBqEG5GS/BC1BoBJ3DABADABABABAB9DkBZGZL",
   "3BCeDFCFCFCCjBLBZBSBBBOCNiB6DlC0BrIcDwBvBfNdFlBKdCjBEHBEqB9ESjBEjBEnBIzBMKBOBGBBBKBOBGBBDzBM2",
   "JJVKHYFBpBBIlCFCABrBBBDACWKWJehCSBBKVKZmC3BGBgCAPDBCBcqBcDcjBHBbb1BKVKSNRuDoC3ByBNyBNjBmBbJW6",
   "HpBGBQC7BcKAIVqBRuBUbWM0B5BBCANsBgBYajBdACAIiBDAMvBODVABAjBRBYTB/BGBABDBOBJHuBmBHCBCVBGBBBEDA",
   "SAMEeJBACABlBBAZABAsB0BSDUCevBUBBA4FuBpBDkBvBUA7BqBNAnCalBG5FrB0D/BfHCACHBBBXPABA+CHCmBQABAcA",
   "KnBHAVALtBTASoCnGgBfIBkBRAxBdwDGBBBlBVAZFBBBfOAnKSPABMBhB8DAvC5cmDuDRjGsyCgDPvhBRFZ68DFmS51Gd",
   "i3B4RHeRuCRdSvBQDfUFSwNsBzG/BgEqCFAiCMgCBBAc3/FI1mBpBJn3IDBGBBBiJPAdCCAODIrMkoCqDFMDIHJm7F0CB",
   "mCBBCACBCDBLBABGBgCBDCHBGBbBDBEBADGBzKCYBYBeBYBeBYBeBYBeBYBH05BeGFlI9ByEsBKGQAhKdSrBkPbkHdCAv",
   "PGBDBBBOBkG7BjCHA0lBDBaBBBACABJBDBABAGAEABABABCBBBACABABABABABBBACDBGBDBDBABJBQFCBEBQkqE/2pBg",
   "B5hEG9GCh0FOwpHPtTitC9QivBq6EF/iE"]

end Coverage.Text.Property
