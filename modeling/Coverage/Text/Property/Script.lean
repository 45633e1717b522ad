/-!
# Scripts

Most characters belong to the script that they are used in; those that are used in several scripts
are common to all, but are listed with the scripts that they extend.
-/

namespace Coverage.Text.Property

/-- The names of the scripts. -/
def scriptNames : List (List String) := [
    ["Adlm", "Adlam"], ["Aghb", "Caucasian_Albanian"], ["Ahom"], ["Arab", "Arabic"],
    ["Armi", "Imperial_Aramaic"], ["Armn", "Armenian"], ["Avst", "Avestan"], ["Bali", "Balinese"],
    ["Bamu", "Bamum"], ["Bass", "Bassa_Vah"], ["Batk", "Batak"], ["Beng", "Bengali"],
    ["Bhks", "Bhaiksuki"], ["Bopo", "Bopomofo"], ["Brah", "Brahmi"], ["Brai", "Braille"],
    ["Bugi", "Buginese"], ["Buhd", "Buhid"], ["Cakm", "Chakma"], ["Cans", "Canadian_Aboriginal"],
    ["Cari", "Carian"], ["Cham"], ["Cher", "Cherokee"], ["Chrs", "Chorasmian"],
    ["Copt", "Coptic", "Qaac"], ["Cpmn", "Cypro_Minoan"], ["Cprt", "Cypriot"],
    ["Cyrl", "Cyrillic"], ["Deva", "Devanagari"], ["Diak", "Dives_Akuru"], ["Dogr", "Dogra"],
    ["Dsrt", "Deseret"], ["Dupl", "Duployan"], ["Egyp", "Egyptian_Hieroglyphs"],
    ["Elba", "Elbasan"], ["Elym", "Elymaic"], ["Ethi", "Ethiopic"], ["Gara", "Garay"],
    ["Geor", "Georgian"], ["Glag", "Glagolitic"], ["Gong", "Gunjala_Gondi"],
    ["Gonm", "Masaram_Gondi"], ["Goth", "Gothic"], ["Gran", "Grantha"], ["Grek", "Greek"],
    ["Gujr", "Gujarati"], ["Gukh", "Gurung_Khema"], ["Guru", "Gurmukhi"], ["Hang", "Hangul"],
    ["Hani", "Han"], ["Hano", "Hanunoo"], ["Hatr", "Hatran"], ["Hebr", "Hebrew"],
    ["Hira", "Hiragana"], ["Hluw", "Anatolian_Hieroglyphs"], ["Hmng", "Pahawh_Hmong"],
    ["Hmnp", "Nyiakeng_Puachue_Hmong"], ["Hung", "Old_Hungarian"], ["Ital", "Old_Italic"],
    ["Java", "Javanese"], ["Kali", "Kayah_Li"], ["Kana", "Katakana"], ["Kawi"],
    ["Khar", "Kharoshthi"], ["Khmr", "Khmer"], ["Khoj", "Khojki"],
    ["Kits", "Khitan_Small_Script"], ["Knda", "Kannada"], ["Krai", "Kirat_Rai"],
    ["Kthi", "Kaithi"], ["Lana", "Tai_Tham"], ["Laoo", "Lao"], ["Latn", "Latin"],
    ["Lepc", "Lepcha"], ["Limb", "Limbu"], ["Lina", "Linear_A"], ["Linb", "Linear_B"], ["Lisu"],
    ["Lyci", "Lycian"], ["Lydi", "Lydian"], ["Mahj", "Mahajani"], ["Maka", "Makasar"],
    ["Mand", "Mandaic"], ["Mani", "Manichaean"], ["Marc", "Marchen"], ["Medf", "Medefaidrin"],
    ["Mend", "Mende_Kikakui"], ["Merc", "Meroitic_Cursive"], ["Mero", "Meroitic_Hieroglyphs"],
    ["Mlym", "Malayalam"], ["Modi"], ["Mong", "Mongolian"], ["Mroo", "Mro"],
    ["Mtei", "Meetei_Mayek"], ["Mult", "Multani"], ["Mymr", "Myanmar"], ["Nagm", "Nag_Mundari"],
    ["Nand", "Nandinagari"], ["Narb", "Old_North_Arabian"], ["Nbat", "Nabataean"], ["Newa"],
    ["Nkoo", "Nko"], ["Nshu", "Nushu"], ["Ogam", "Ogham"], ["Olck", "Ol_Chiki"],
    ["Onao", "Ol_Onal"], ["Orkh", "Old_Turkic"], ["Orya", "Oriya"], ["Osge", "Osage"],
    ["Osma", "Osmanya"], ["Ougr", "Old_Uyghur"], ["Palm", "Palmyrene"], ["Pauc", "Pau_Cin_Hau"],
    ["Perm", "Old_Permic"], ["Phag", "Phags_Pa"], ["Phli", "Inscriptional_Pahlavi"],
    ["Phlp", "Psalter_Pahlavi"], ["Phnx", "Phoenician"], ["Plrd", "Miao"],
    ["Prti", "Inscriptional_Parthian"], ["Rjng", "Rejang"], ["Rohg", "Hanifi_Rohingya"],
    ["Runr", "Runic"], ["Samr", "Samaritan"], ["Sarb", "Old_South_Arabian"],
    ["Saur", "Saurashtra"], ["Sgnw", "SignWriting"], ["Shaw", "Shavian"], ["Shrd", "Sharada"],
    ["Sidd", "Siddham"], ["Sind", "Khudawadi"], ["Sinh", "Sinhala"], ["Sogd", "Sogdian"],
    ["Sogo", "Old_Sogdian"], ["Sora", "Sora_Sompeng"], ["Soyo", "Soyombo"], ["Sund", "Sundanese"],
    ["Sunu", "Sunuwar"], ["Sylo", "Syloti_Nagri"], ["Syrc", "Syriac"], ["Tagb", "Tagbanwa"],
    ["Takr", "Takri"], ["Tale", "Tai_Le"], ["Talu", "New_Tai_Lue"], ["Taml", "Tamil"],
    ["Tang", "Tangut"], ["Tavt", "Tai_Viet"], ["Telu", "Telugu"], ["Tfng", "Tifinagh"],
    ["Tglg", "Tagalog"], ["Thaa", "Thaana"], ["Thai"], ["Tibt", "Tibetan"], ["Tirh", "Tirhuta"],
    ["Tnsa", "Tangsa"], ["Todr", "Todhri"], ["Toto"], ["Tutg", "Tulu_Tigalari"],
    ["Ugar", "Ugaritic"], ["Vaii", "Vai"], ["Vith", "Vithkuqi"], ["Wara", "Warang_Citi"],
    ["Wcho", "Wancho"], ["Xpeo", "Old_Persian"], ["Xsux", "Cuneiform"], ["Yezi", "Yezidi"],
    ["Yiii", "Yi"], ["Zanb", "Zanabazar_Square"], ["Zinh", "Inherited", "Qaai"],
    ["Zyyy", "Common"]]

/-- The ranges of the scripts, packed as groups of how many characters lie between two ranges and
how far a range extends. -/
def packedScripts : List String :=
  ["Ggo6DrCEJEBEwphCzBLAGg4lCaCOEW2DgwBEBFBNBCBfBJLZBrDBhBwCvBwHeBBFqCBcwy8ByDQqLCvCC1BHAgBPwDEBm",
   "Ej7DejCC3BDg43BDBaBBBACABJBDBABAGAEABABABCBBBACABABABABABBBACDBGBDBDBABJBQFCBEBQ0BBEgiiCVBIIx",
   "pBlBCxBCCjs9BEEg4iC1BDGEg4GsCBxBEg1pB3CoowB4REw26CdCFEg+GzBIDcgsCDBHCBCVBGBADDCICBCDIAEBBECYI",
   "ggnCIBsBBNKcGqXB5wLqBwDfGggkCtCEjBJACggK/HEgwGbCBCg6FTEgokC0BBRGggF/TwRlC6tgCPCg1gCwBIgwqB2BJ",
   "NCJCDGg9E1CCFy7lBvCCw9jCbGifNwkKzDFGCw8rCiDMggiCFCABrBBBDACAUggBkECoFw6FKgFAsCAnjEfgie/Cu8VBg",
   "w4B9BhBAKgoCwCEOCZg7nBfgwcJQgomCGCACHBBBdBBCLJJCggmC7BCgghCvCKggvDqDFMDIHJCDEggsC1iBK68DCgohC",
   "nBCg/jCWoCgwEoCBDCGBABDCoBBDCgBBDCGBABDCOB4BBDCiCCfDZmvGWJGBGBGBGBGBGBGBGipfFCFCFJGBGxlvCGBDB",
   "BBOGgqjClBDcIBUglElBBAFACqBBDw8CqBCCgiElBBAFAMggL/Cg9sDGBQCGBBBEMgrnCFBBBkBBBBFHJOgonCGBBBrBD",
   "ABBBIIJCw5gCaeg4kCDBHCBCVBGBBBECICBCCCAGAFGCGDEoCwbDBCCDBAEABABCBABTB+BOPmpGEyBEEE0CAgKVCFClB",
   "CFCHBABABABeC0BBOBNCFBSCCBInJA+xiBA6uVuCRA/i0BlCch0CCBIBCBVBGBBBECJBCBCCAPDCLHGCgo4C5BgBhwCCB",
   "FEBCVBGBBBBBBCABEEBCCDAHDBAHQcgoE/HuxHBhI9CxDehCeh3dcjUj9KMWEwBk9JeDFCFCFCCsBg0LZB4CM1GvBABAZ",
   "IODke/tGgC/vUgoWtLCpDoodBMBugkB/2pBgB5hEG9GCh0FOwpHPtTitC9QivBq6EF/iECg5FUGgniCSBBFESxsB2BIaE",
   "Fop9BZBEBABBBBBJMhiM1CGCh7/C+ISAdCtlQACggxCmSKg46ClCKJBGBUFSIgo4DsBDNCJEBGgkjCyBNyBHFEg4gCjBJ",
   "CGgsqBtCCJEBEgoqBtBBAchlM5CCCwHPwGuBB3CugzBJBsByisBDBGBBBA/ICyBAODGg4nCQBoBDcQgwiCDBBFHBCBcCC",
   "EJHIIg8F9CCJGJmPfEgwkCRBuBGk/7CA74G1OpBAagkDMBCBWBJBECIBCBDHBGBBDCJBCCgq7C5BEgkkCiCKAKgxG+BBc",
   "CKGJGNWh0DBBABEBXBABWCEBABGBJCDuChCZGZvBAPAFWBeBgOnBE7wGlBGwBFDFMBlChC/HxLANAQMtEBGAbARoB32Cf",
   "i1elDDiCCBBABHVNwZqBBIBD28TG6gBZGZlhCFBpBBIl61BeGFGggH3BDODCKgoGeBLELEADLGgwhC2JJVKHOgggCLBZB",
   "SBBBOCNiB6DEwmpBvBw1eACg0gCcEgpiCZFACwqkCmBCg3nCYEgiCbCAEg2iCmBELGwjnCfCVBNCgy7C6CEgg6DkGCPGg",
   "tiCXETCtBCgsiCfOgoDMBCByBBCBFEPCZEgwlCkCLJMggGBCABTG4CHqB1t/BMGgy6CeBJEBGg3qBWpGtBCJKg0kCGBAB",
   "DBOBKIggE/EgqmBehDfwibTCwm5DpBGgtmCHCtBCKCg0iCfEgkiCeIIEgglC7CBEEg+B6BCCEh/7CAusQrMCg0FcCwiHv",
   "BEwu5DqBEACggjCoCch4CCBHCBCVBGBBBECICBCCHCEBBECREwlhCjBEjBEgkhCdCJCw7jCZCgjiCfCg2mC4BCw6gCqBC",
   "giqB3BEg7iCSFHGg8iCRHDMGEgoiCbDAGg47CqCE4BHQEg6iCVCHEwpqBjBLAEgojCnBIJEg1FqCDKEggCtBCOCgziCfE",
   "gkqBlCILGgg2DrUPEBOCwihCvBCgskC/CEgslC1BClBEw1kC6BFJahsDCBRDXBIBACGDAEFBABHGJCCs/gCTCw5jCpBCg",
   "4jCnBEwmkCYHJCwymCyCEg8G/BgIHEg+mChBOJCggqBsBIg4BNB7BCCwIKGg7FMBCBBEg0lC5BGJEwqGdCEIgsGrBEZGK",
   "DBkBi8CBBFDCBDDBBABBDBDCDLEEDCBDCAGAOUl+kCxBNAIg/7CAf3/FI/XgQIEg0qBiCYEaggDMBCBWBPCIBCBDHBBCC",
   "ACDCJHIGwpL3BHBOAEg4FVJACg8BxBEhwD5BFbOg4DnCBjBEmBBjBBOBGEBEgklCnCIJEwz6CuCBJCguhCzBCw04DeWg8",
   "kCJBACABlBBJBACABDBJBBIBEg8gCdBACgopBrJQwrhCKBOBGBBBKBOBGBBEglmCyCMAEg24D5BFAEg9gCjBENIggoC5c",
   "mDuDBELjGGg0jCpBBCCBEggoBskBD2BCgwmCnC6BgYvD1IBkOKaAgXD7qEehQCBMBGEAGADBmG/BsQBiGgB55DDrDBlrz",
   "BPQNveAiHA6iEAk+uBtBCWgRCRHCGeDy6rYvH8KAgCaFauBBOBEXAfAhOmBFECT0DAJAGABA9TAGAOADAgBA8EAkQAhEB",
   "5mBA1MDiJAvvBCnCBrGBBAtmBANAHDBFBCCAlYLC2CBKDKBORgB/BlBBCCFBaBQpBCE5UWKV/cgIzTCfBoDgQ9CyMUBAB",
   "YPHED7CBDA6CBzEPgBlBJAwB/BfwCvBA4CnFguG/BgoWhBmDClFJ0HAgFArMAOByuUBwGJWiBBSBDzEABfaFaKKAtBBgC",
   "GBGKEiICEsBDIwCMzBsBkHaktuBD86D5HGzN8EzD8B1HKmBC9BDQIBHdE8B1GTMTM2CJYnE0CBmCBBCACBCDBLBABGBgC",
   "BDCHBGBbBDBEBADGBzKCjJCxBxjFjCsC8BiWrBEjDMOCOBOBkBKtF4BZBBNrBEIHBOF6E3eEQDMD2DE+CGLEAPLE3BIJG",
   "nBIdCLEB+BzKMNCMDJF3BHOCKGIHyEBlDnghYAe/C"]

/-- The ranges of the scripts with the characters that extend them, packed as groups of how many
characters lie between two ranges and how far a range extends. -/
def packedExtensions : List String :=
  ["O/wBAgBAuwGAxvDA+1uDrCEJEBKkYAsBAsBAxugCzBLAGg4lCaCOEWuDgwBEB2GBhBwCvBwHeBBFqCBcv6FAxvDAuozBy",
   "DQ8NC1BHAgBPwDEBmEjfbk7CejCC3BDg43BDBaBBBACABJBDBABAGAEABABABCBBBACABABABABABBBACDBGBDBDBABJB",
   "QFCBEBQ0BBEgiiCVBIKoYAoRlBCxBCCjs9BEI3FA4rLBum3B1BDGEg4GsCBxBEg1pB3CoowB4REw26CdCFEg+GzBID2B8",
   "VA00BBRBaDBHCBCVBGBADDCICBCDIAEBBECYx2EABACBBAIAIACAEACC5/iBAIggnCIBsBBNKcenWABCNAQB1oLCEJBMK",
   "DCAGAjGAJqBwDflkzBB6IEGggkCtCEjBJACggK/HGgwGbCBv9jBAE15FBJTImvCJwyBJ2lgC0BBRGggF/TwRlC6tgCPK3",
   "FAi9HACAzuDAuj1BwBIgwqB2BJNCJCDQgYCBAGBWBLBujE1CCFy7lBvCCw9jCbU3FAoSADBBAsDBsDNwkKzDFG3IAom1B",
   "bEgogCBu0LiDSgogCCEsBDIg2BFCABrBBBDACAkB8VAjCCBABABACAFAuHvJw6FKgFAsCA/DAn/DfjCA8/d/Cu8VBgw4B",
   "9BhBAS8VAjyByCCqBw6EmBBB2fA/5hBJmFfgwcJQgomCGCACHBBBdBBCLJJGkrCLg2nBJm+b7BCgghCvCU3FAvSBBAYB3",
   "4KAjujDqDFMDIHJCHEggsC1iBK68DG3FAtSA6vgCnBCg/jCWqCuYAx3DoCBDCGBABDCoBBDCgBBDCGBABDCOB4BBDCiCC",
   "fDZmvGWJGBGBGBGBGBGBGBGipfFCFCFJGBGxlvCGBDBBBOMswBAOADAg5hClBDcIBa3FAxmBA24ClBBAFACvBw8CqBCC6",
   "cAllDlBBAFAjIAgB3FArSABA+LACAhIAx7CA+6DAl9C/CjPArheAwsuCGBQCGBBBEQ3FAslCB6/kCFBBBkBBBBFHJQkrC",
   "B68kCGBBBrBDABBBIIJK3FAsSBCAoBA+//BayBxqCBRBgUN8mEABBeCDB2fAvw8BDBHCBCVBGBBBEBJCBCCCAGAFGCGDE",
   "7iDBBA4C3FAoSBCABABAKAuBACAqBHCDBAEABABCBABTB+BOPmpGEyBEEE0CC+JVCFClBCFCHBABABABeC0BBOBNCFBSC",
   "CBI+CAoGA+xiBA6uVuCRA/i0BlCiBxqCBRB7ICBIBCBVBGBBBECJBCBCCAPDCLHGwpnBJElrCA681C5BmBxqCBRB7ECBF",
   "EBCVBGBBBBBBCABEEBCCDAHDBAHQ5tnBJqBgoE/HhwHCEJBMOCGAjGA1B9CxDehCeh3dcjUj9KMWEwBpyJB6IE6BeDFCF",
   "CFCC0C3FAouLZB4CM1GaPBCBMBMBMCAGI7FA0EPgBlBJAwBnB4BwBPLzBA4CYKEgDeB/tGgC/vUg4BH4vUtLCpDrbB6IE",
   "8jcBMBu7YR+2HButD/2pBgB5hEG9GCh0FOwpHPtTitC9QivBq6EF/iECg5FWGgniCSBBFEUnYBoU2BIaEFop9BZBEBABB",
   "BBBJiBhgMCEJBMQFBAEBD1CCH6CBoqzBB6IEKAtBBhjsB+ISAdCtlQACggxCmSKg46ClCKJBGBUFSIgo4DsBDNCJEBO6i",
   "IACAzuDAPA+x3ByBNyBHFEg4gCjBJCGgsqBtCBKEBCgoqBvBsBlYAdA9mLCEJBMQFBAEB7CDD/CwHPwGuBB3Ct3yBB6I+",
   "BwisBDBGBBBA/ICyBAODGg4nCQBoBDcQgwiCDBBFHBCBcCCEJHIIg8F9CCJGJmPfIm3CJgqnBJmuaRBuBGk/7CA74G1Op",
   "BAqBxqCBRB6YMBCBWBJBECIBCBDHBGBBDCJBC8+DABBGAXABA75iBFCgq7C5BKmrCJhmJA+veJmiaiCKAKgxG+BBcCKGJ",
   "GNWh0DBBABEBXBABWCEBABGBJCDgEhCZGZvBAMACAFWBeBgODAKABCBAJABAGEbOBBBAPCHBBBmBAFAEM1IBqmBBo9BAk",
   "gDlBGwBFDFMBlC5BAH/HvJAhCANAQMzCA5BBGAbARoB32Cf3MAoneHalDDiCCBBABHVNuJAhQqBBIBD28TG6gBZGZlhCF",
   "BpBBIl61BeGFGggH3BDODCMlrCA68DeBLELEADLInogCsBsmB2JJVKHUgggCLBZBSBBBOCNiB6DFCEsBDIK8VAQA8pLBk",
   "mdvBw1eAE6iIAlx4BcI3FA5rLAu32BZFAI3FAslCLg2nBJ2oamBCg3nCYGgyBA/PbCAGgyBA/jhCmBELGwjnCfCVBNCgy",
   "7C6CEgg6DkGCPGgtiCXETCtBE9iIAip6BfYxqCBRB6cMBCByBBCBFEPCZ66DAXA95iBCGwhqBJmubkCLJOggGZG4CHqBk",
   "8BAx+DBFD0y5BMGgy6CeBJEBGg3qBWpGtBCJMmzCJwgiCGBABDBOBKKggE/EukmBAxFehDfwibTCwm5DpBUxqCASBgcJ5",
   "/DAIAHA15iBFqrcHCtBCKCg0iCfEgkiCeIISxqCBi8EABBJAGABABAy49B7CBEMswBAOADAgN6BCC+p9BBEh/7CAusQrM",
   "Cg0FcCwiHvBGkrCBqj3DqBEAG6iIA1uDAvu3BoCkBxqCBRB7MCBHCBCVBGBBBECICBCCHCEBBECRirEAXAMhYACAGAsCA",
   "3qgCjBEjBEgkhCdCJGgyBAxlhCA9jBZCgjiCfCg2mC4BM3FAoSAFCKAvLAs2/BqBKigGBBAphCAy+DA9he3BEg7iCSFHI",
   "gyBA/phCRHDMGEgoiCbDAGg47CqCE4BHQEg6iCVCHEwpqBjBLAOswBAOADAgBAzEArxhCnBIJCg1F4CGggCtBCOyvJACg",
   "ziCfEgkqBlCILGgg2DrUPEBOE3FA48gCvBUxqCAl8EABACBCAJACAi6iBFCAnqa/CEgslC1BClBIkrCBq2nBJ2za6BFJe",
   "krCB7gBCBRDXBIBACGDAEFBABHGJCC93DAun9BTEgyBAvniCpBCg4jCnBEwmkCYHJCwymCyCEg8G/BgIHQgYBBAJACAcA",
   "DAukmChBOJGkrCBgEJwwnBsBkBjYBCBBAYCHBBB6WAOBCAgBAKKaAvENB7BCCwIKtsFABAI15FBpBMBCBBIkrCBq2nBJm",
   "yb5BGJMgYBFBDAzpDJmoCdCEIgsGrBEZGKDByBxqCBRB8QBBFDCBDDBBABBDBDCDLEEDCBDCAGAOU/mEA4gjBAtwaABA3",
   "BBjkDxBNAMw/LPvPAwvvCAf3/FI/XgQIEg0qBiCYEmBxqCBRB6UMBCBWBPCIBCBDHBBCCACDCJHI1iEBBABAXAOiYABAB",
   "DZAswK3BHBOAGg4FVJAVBOswBAOBCAgCJ2IxBgy9BAKAM8VAaArBAtBAv2C5BFbQg4DnCBjBEmBBjBBOBGEBthIDQxqCB",
   "RBv7EAMAPA95iBJmibnCIJEwz6CuCBJOhYACACAJABAqCAhzgCzBE8VAz+3DegBmnDJigEABA75iBF7FAu0aJBACABlBB",
   "JBACABDBJBBIBEg8gCdBACgopBrJQwrhCKBOBGBBBKBOBGBBEglmCyCMAEg24D5BFAEg9gCjBENIggoC5cmDuDBELjGOs",
   "wBAOADAgCJ2giCpBBCCBOhgMBFJCH/GAk4bskBD2B60WECgwmCnC2BvYACABODGCACPBBBRBEBDwvBB7qEezX1BBABEsQ",
   "BiGfwo3BPQNveAiozBtBCWgRCRHCGeDy6rYvH+JAgCaFauBBLBBBEXAfAhOCBJBADABIBABFFECT+DAGABA9TA3GAkQA8",
   "qBA1MDnhELCgBBeBJBBBGBKDKBORgB/BlBBCCFBaBQpBCE5UWKV/cgIzTCfBoDgQWBXCJBDBABZiNADANANAVAxQXfAxB",
   "OMDhFJF/CfAguG/BooWZmDCweAOBk1UJWUCLBSBDzEABfaFaF/DGBGKEyMMzBsBjwyB5HGzN8EzD8B1HKmBC9BDQIBHdE",
   "8B1GTMTM2CbGnE0CBmCBBCACBCDBLBABGBgCBDCHBGBbBDBEBADGBzKCjJCxBxjFjCsC8BiWrBEjDMOCOBOBkBKtF4BZB",
   "BNrBEIXF6E3eEQDMD2DE+CGLEAPLE3BIJGnBIdCLEB+BzKMNCMDJF3BHOCKGIHyEBlDnghYAe/C"]

end Coverage.Text.Property
