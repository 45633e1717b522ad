/-!
# Sets of symbols

Rows of the tables and modes of the lexer are put together from a small number of sets of symbols.
A set lists how far each of its symbols lies behind the one before.
-/

namespace Coverage.Script.Automaton

/-- The sets, packed; a set is a group of distances. -/
def packedSets : List String :=
  ["CrDYBoBBUCmDBBxBByBBuBB6BBBB4CBnBDEyCBC0CBBHDuCBBBIGYTBtBFCE6CBBBBxCByCBzCBsCkBsEkBBBBBBDBBCE",
   "DDCCBBBBBBBBCCBBBCBCBCFKBtCB3BB/CBiEBJCxDBB7DB4BB5BB1BP8BBBBBBBBBBBBBBBBsDBrBByDBEBXBmHBKBmBB",
   "7BH0CBMBBBBB2CB6DGxDEBBBB7BABCCCCBCBBBBBBBBBCDBBBBBBBCDCDGBDCBDZBBLBBBBBBFFBDBBBBBBBCBBWHBCLp",
   "BlCCBBiBB5EpBEDBBLBBCBJGBCBCMSBBBBBBBBBBBBBBBBBBBBGBFWFDLuDCBC+DBD7GSBBVmBEEBLBDBPDBCMSBBBBBB",
   "BBBBBBBBBBBBBBGBFUCBgEBsBBpBBrCCVrDCUOBN/BmEFBBHBBBCCBBBCBBBBBBBBBBGBBBBBDBBCEDBCBBBBBBBBBBBB",
   "CCBBBBBBCBCFKlBsENXBBBBBDBBCEDDCCBBBBBBBBCCBBBCBCBCFKBOBPBDBMBahBEQEQDBCMSBBBBBBBBBBBBBBBBBBB",
   "BGBFWBRBSBTBbBcBdBeBfBgBBhBBYCIBB8DB9DlBsEkBBBBBBDBBCEDDCCBBBBBBBBCCBBBBBBCBCFKEIBNTCBsBD8DCB",
   "GDLpBlCCBBwBEBCLuDFBCLpBlCDBCLBZFBGlBBDClGfBkHB+DB/DEUBS5CHIBMBMHjCFIBM3CUFINEzCUDHbqCCZzCBLB",
   "FB2BFHjBBE1CZEEQUCMSBBBBBBBEBBBBBBBBBiBnBEEBLBBCKGBCBCMSBBBBBBBBBBBBBBBBBBBBGBFWjBEEMBDQDBCMS",
   "BBBBBBBBBBBBBBBBBBBBGBFWCQKCqB6CBvBCoDCCpDBgCmEFBBHBBBCCBBBCBBBBBBBBBBGBBBBBDBBCEDBCBBBBBBBBB",
   "BBBCCBBBBBBCBCFJBCOBRBCBFFHTJBF6BBJBBBBGINDBO5CBtBG6FBBDB5BC9FBBwFjBEENDQDBCMSBBBBBBBBBBBBBBB",
   "BBBBBGBFUClBEEBLBDQDBCMSBBBBBBBBBBBBBBBBBBBBGBFUClBEEMBDBPDBCMSBBBBBBBBBBBBBBBBBBBBGBFUCiBEEM",
   "BTDBCMSBBBBBBBBBBBBBBBBBBBBGBFWiBEQEBPDBCMSBBBBBBBBBBBBBBBBBBBBGBFWDINrDQBCBKaJBDC6BBJBBBBCYB",
   "hBINDTBCMSBBBBBBBBBBBBBBBBBBBBGBFUCiBEENDTBCMSBBBBBBBBBBBBBBBBBBBBGBFUCDIBgBB3HBxDF1DBBBBgBEU",
   "QDBCMSBBBBBBBBBBBBBBBBBBBBGBFW8BABCCCCBCBBBBBBBBBCDBBBBBBBCDCDGBDCBDZBBLBBBBBBFFBDBBBBBBBCBB5",
   "BEDBBLBBCBJFBBCBCMCBBBBBBBBBBBBBBCBBBBBBBBBBBBBBBBBBBBGBFW2BEEBLBDBOBDBCMCBBBBBBBBBBBBBBCBBBB",
   "BBBBBBBBBBBBBBBBGBFUC2BBCEDCBBBCBBBBCDBBBBBBBFCDGBDCBDZBBLBBBBBBFFBDBBBBBBBCBSBCBEBFHTJBF6BBJ",
   "BBBBHIBNCBOCCqDXBtDBGnBsEkBBBBBBBCBBCEDDCCBBBBBBBBCCBBBCBCBCFCBHE4EdEbBgHCgHXE7FDD5BB2HB1HB+H",
   "B/HBADFEa2CABCBBCBBBCBBBBBBBBBCBBBBBBBBBBCDCDBCDBDCBCBRBBBBBBBBBBBBBBBBBBBBBBBBBBBFFBDBBBBBBB",
   "CBBCED5DCBCIhB+BABCCCBBBCBBBBBBBBBCDBBBBBBBCBBBCDGBDCBDZBBLBBBBBBFFBDBBBBBBBCBkBEEMBDQDBCMSBB",
   "BBBBBBBBBBBBBBBBBBGBFUCgBEQUDBCMSBBBBBBBBBBBBBBBBBBBBGBFWBwDFIBNRCDLKrDCHyBBvDBuDqBrEBKBZBBBB",
   "BDBBCEDBCBBBBBBBBBBBBCCBBBCBCBCFKmBsEdHBBBBBDBBCEDDCCBBBBBBBBCCBBBBBBCBCFKJ7GGECDDBCRCzGTB/ED",
   "IOTiBINDQDBCMSBBBBBBBBBBBBBBBBBBBBGBFUCEDLpBlCkBEDNEBJGDBCMSBBBBBBBBBBBBBBBBBBBBGBFWCZOCIfCUm",
   "BBjBCqBJCqBKEWCBOqCmEFBBHBBBCCBBBCBBBBBBBBBBGBBBBBCBBBCEDBCBBBBBBBBBBBBCBBBBBBBBCBCFDBBBBBBBF",
   "BqBsEkBBBBBBBCBBCEDDCCBBBBBBBBCBBBBBCBCBCFCBHHBoBsEkBBBBBBBCBBCEDDCCBBBBBBBBCCBBBCBCBCFCBHImB",
   "sEkBBBBBBDBBCEDDCCBBBBBBBBCBBBBBCBCBCFKHD1FEbBzGC9GjBBzHB4H1CABCBBCBBBCBBBBBBBBBCBBBBBBBBBBCD",
   "CDBCDBDCBCBRBBBBBBBBBBBBBBBBBBBBBBBBBBBFFBDBBBBBBBCBDjBIMBDQDBCMSBBBBBBBBBBBBBBBBBBBBGBFUCmBE",
   "EBMBCKGBCBCMSBBBBBBBBBBBBBBBBBBBBGBFWkBEEBMDQDBCMSBBBBBBBBBBBBBBBBBBBBGBFUCBlBkBEENDBPDBCMSBB",
   "BBBBBBBBBBBBBBBBBBGBFUCiBERDQDBCMSBBBBBBBBBBBBBBBBBBBBGBFUCjBEEMBDTBCMSBBBBBBBBBBBBBBBBBBBBGB",
   "FUCBQ8BABCCCCBCBBBBBBBBBCDBBBBBBBCCBCDGBDCBDZBBLBBBBBBFFBDBBBBBBBCBhBEUBPDBCMSBBBBBBBBBBBBBBB",
   "BBBBBGBFWjBEDNEKGDBCMSBBBBBBBBBBBBBBBBBBBBGBFWjBEDBBMBCBJHCBgBBBBBBBBBBBBBBBBBBBBBMWgBEEBMDBS",
   "BgBBBBBBBBBBBBBBBBBBBBBMUCnBEEBLBDBJGDBCMSBBBBBBBBBBBBBBBBBBBBGBFUCFrBBtBFCFJMBMHGGCBCJOFMIBS",
   "5CCIOB0DBzDoBsEKBSHBBBBBDBBCEDDCCBBBBBBBBCCBBBBBBCBCFKoBsEkBBBBBBBCBBCEDDCCBBBBBBBBCCBBBBBBCB",
   "CFCBHmBsEkBBBBBBDBBCEDDCCBBBBBBBBCBBBBBBBBCBCFKMnEBDLBtBDCYPFBG7GLHBHBF7GSBHBG4EdEbhBBC1HBC8G",
   "EB8GCgHdQ1FCCbBGGIBBBBBCFBK1FCCbHODBBIF7GGMBCF6FBBECDpEBxCDqEIpCB9HDsFBnCCqExCBvEBzEBiIB7HB8H",
   "BxHByH6DABBBBBBBBBBBBBBBBBBBBBBBBBBBBBBBBBBBBBBBBBCBCBCBDBBBBBBBBBBBBBBBBBBBBBBBBBBBBBBBBBBBB",
   "BBBBBBBBBBBBBBDCBBDBBBBBBBBBBBBBBBBBCBCEAFEadIBMBCKHDCMSBBBBBBBEBBBBBBBBBiBbIBMDUCMSBBBBBBBEB",
   "BBBBBBBBgBCbINDBTCMSBBBBBBBEBBBBBBBBBgBCYYKKCMSBBBBBBBEBBBBBBBBBiBYYBTCMSBBBBBBBEBBBBBBBBBiBB",
   "kBhBEENTDBCMSBBBBBBBBBBBBBBBBBBBBGBFWiBEDRKGDBCMSBBBBBBBBBBBBBBBBBBBBGBFW8BABCCCCBCBBBBBBBBBB",
   "BDBBBBBBBCDCDGBDCBDZBBLBBBBBBFFBDBBBBBBBCB6BABCCCCBCBBBCBBBBCDBBBBBBBCDCDGBDCBDZBBLBBBBBBFFBD",
   "BBBBBBBCB6BABCCCCBCBBBBBBBBDDBBBBBBBCDCDGBDCBDZBBLBBBBBBFFBDBBBBBBBCBfEkBDBCMSBBBBBBBBBBBBBBB",
   "BBBBBGBFWhBEEMBWBCMSBBBBBBBBBBBBBBBBBBBBGBFWiBEQBDTBCMSBBBBBBBBBBBBBBBBBBBBGBFUCfEQXBCMSBBBBB",
   "BBBBBBBBBBBBBBBGBFWkBEDBBMBCBJHCBgBBBBBBBBBBBBBBBBBBBBBGBbnBEDBBMBCBJGBCBCMSBBBBBBBBBBBBBBBBB",
   "BBBGBblBEDBBLBBCBJHCBgBBBBBBBBBBBBBBBBBBBBBGBboBEDBBLBBCBJGBCBCMSBBBBBBBBBBBBBBBBBBBBGBblBEDB",
   "BMBCBJHCBgBBBBBBBBBBBBBBBBBBBBBGBFWoBEDBBLBBCKGBCBCMSBBBBBBBBBBBBBBBBBBBBGBFWhBEEBMDBSBgBBBBB",
   "BBBBBBBBBBBBBBBBGBZCkBEEBMDBPDBCMSBBBBBBBBBBBBBBBBBBBBGBZCYIBMBCKHCBgBBEBBGBBBBBBBMWgBEEBMBCK",
   "HCBgBBBBBBBBBBBBCBBBBBBBMWLIBMBMHjBBSNWKIBMBMHkBSNWbIBMBCKHCBgBBBBBBBBGBBBBBBBMWOIBMBMHjBBEBB",
   "MNWNIBMBMHjBBFBMNWMIBMBMHjBBGMNWdIBMBCKHCBgBBBBBBBBBBEBBBBBBBMWSIBMBMHjBBEBBHBBBCNWJIBMBMH2BN",
   "WiBEEBLBDBSBgBBBBBBBBBBBBBBBBBBBBBGBZClBEEBLBDBPDBCMSBBBBBBBBBBBBBBBBBBBBGBZCiBEEBMDBSBgBBBBB",
   "BBBBBBBBBBBBBBBBGBFUCGIBMBMHlBEEBLBDBPDBCMSBBBBBBBBBBBBBBBBBBBBGBFWWIBMDTBgBBEBBGBBBBBBBMUCeE",
   "EBMDTBgBBBBBBBBBBBBCBBBBBBBMUCJIBM3BBSNUCIIBM4BSNUCZIBMDTBgBBBBBBBBGBBBBBBBMUCMIBM3BBEBBMNUCL",
   "IBM3BBFBMNUCKIBM3BBGMNUCbIBMDTBgBBBBBBBBBBEBBBBBBBMUCQIBM3BBEBBHBBBCNUCHIBMqCNUCWINDBSBgBBEBB",
   "GBBBBBBBMUCeEENDBSBgBBBBBBBBBBBBCBBBBBBBMUCJINEzBBSNUCIINE0BSNUCZINDBSBgBBBBBBBBGBBBBBBBMUCMI",
   "NEzBBEBBMNUCLINEzBBFBMNUCKINEzBBGMNUCbINDBSBgBBBBBBBBBBEBBBBBBBMUCQINEzBBEBBHBBBCNUCHINEmCNUC",
   "EINEnDUHRKJBgBBEBBGBBBBBBBMWcEDRKJBgBBBBBBBBBBBBCBBBBBBBMWHHbqBBSNWGHbrBSNWXHRKJBgBBBBBBBBGBB",
   "BBBBBMWKHbqBBEBBMNWJHbqBBFBMNWIHbqBBGMNWZHRKJBgBBBBBBBBBBEBBBBBBBMWOHbqBBEBBHBBBCNWFHb9BNWTYB",
   "SBgBBEBBGBBBBBBBMWbEUBSBgBBBBBBBBBBBBCBBBBBBBMWGZzBBSNWFZ0BSNWWYBSBgBBBBBBBBGBBBBBBBMWJZzBBEB",
   "BMNWIZzBBFBMNWHZzBBGMNWYYBSBgBBBBBBBBBBEBBBBBBBMWNZzBBEBBHBBBCNWEZmCNWDUBSCBNPBCBKaJBDC6BBKBB",
   "BSBCBKGUGDBDC6BBJBBBBQBCBFFaJBF6BBJBBBBCsBECINGBGgBFBDGBGlBBBCCWTEqDCBUDMJrDAhClEBFBBHBBBCCBB",
   "BCBBBBBBBBBBGBBBBBDBBCEDBCBBBBBBBBBBBBCCBBBBBBCBCFJBoBsEkBBBBBBBCBBCEDDCCBBBBBBBBCBBBBBCBCBCF",
   "CBHlBsEkBBBBBBDBBCEDDCCBBBBBBBBCBBBBBCBCBCFKKnEBDLBtBDCYPCuFBBvFB6EO1FCCbBGGIBBBBBCJ1GGGJBCBC",
   "FI1GGGJBCBCJ1FCCbHODBBE5EiCSBE7GSBHChHPIrELBtBDCYPEuECBqCF6FBBE5BCwEBCiHBB7GBrFB0FnCABBCDBBLB",
   "BMFBBCBCBCBHBCBBBBBBBBBBBBBBBBBBBBBBBBBBBBBBBBBBBCBEBDBBBBDBJCgBABBCDBBLBBMFBBCBFBHSJBBLBEBEB",
   "FBJZBDDBBLBTDGBZJBBLBEBEBFBJCwBABDDBBLBBMFBBCBCDBISBBBBBBBBBBBBBBBBBBBCBEBEBFBJWBGNOGDBCDBiBB",
   "BLBEBEBFBJ9BBDDBBLBBMFBBCBCDBHBCBBBBBBBBBBBBBBCBBBBBBBBBBBBBBBBBBBHBEBFBJoBBDDBBLBBMGBCBCMSBB",
   "BBBBBBBBBBBBBBBBBHBEBEQBDDNUCBDBCB5BGBJCJBGbFFBBC7BEqDBBBExB3BCBEyB3BBBEqBHC4BEqBIC3BCrDECrDD"]

/-- The modes of the lexer, packed; a mode is a group with the number of its set of tokens. -/
def packedModes : List String :=
  ["BzLB0LB1LB2LB3LB4LB5LB6LB7LB8LB9LB+LB/LBgMBhMBiM"]

end Coverage.Script.Automaton
