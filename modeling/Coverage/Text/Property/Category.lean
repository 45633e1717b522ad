/-!
# General categories

Every code point that is no surrogate is in one general category.
-/

namespace Coverage.Text.Property

/-- The names of the general categories. -/
def categoryNames : List (List String) := [
    ["Cc", "Control", "Cntrl"], ["Cf", "Format"], ["Cn", "Unassigned"], ["Co", "Private_Use"],
    ["Ll", "Lowercase_Letter"], ["Lm", "Modifier_Letter"], ["Lo", "Other_Letter"],
    ["Lt", "Titlecase_Letter"], ["Lu", "Uppercase_Letter"], ["Mc", "Spacing_Mark"],
    ["Me", "Enclosing_Mark"], ["Mn", "Nonspacing_Mark"], ["Nd", "Decimal_Number", "Digit"],
    ["Nl", "Letter_Number"], ["No", "Other_Number"], ["Pc", "Connector_Punctuation"],
    ["Pd", "Dash_Punctuation"], ["Pe", "Close_Punctuation"], ["Pf", "Final_Punctuation"],
    ["Pi", "Initial_Punctuation"], ["Po", "Other_Punctuation"], ["Ps", "Open_Punctuation"],
    ["Sc", "Currency_Symbol"], ["Sk", "Modifier_Symbol"], ["Sm", "Math_Symbol"],
    ["So", "Other_Symbol"], ["Zl", "Line_Separator"], ["Zp", "Paragraph_Separator"],
    ["Zs", "Space_Separator"]]

/-- The ranges of the general categories, packed as groups of how many characters lie between two
ranges and how far a range extends. -/
def packedCategories : List String :=
  ["EAf/CgBqBtFAyqBFWAgGAxBAgMBwCAr5DA8/BEaExBEBJv03BA5HChmEAPAi7IPgjiBDvmFHm0rYAe/C2tB4bBGDHABAU",
   "AtMAmBByBBDA3BHbDGKuIA8BBlDN7BBxBBPAcBBALEfACEtHAIBCBWAHABCEBJBCBEHBDCAFBZBDAGDCBWAHACACACBBA",
   "FDCBDCBGEABGRJDAJADAWAHACAFBKADADBBOEBMGHADAIBCBWAHACAFBJBCBDGDDCAFBSJCAGCDAECCABACCCCDCMDFCD",
   "AEBBFBNVENADAXAQBJADAEGCADBBBEBKGWADAXAKAFBJADAEGCFCAEBKADLNADAzBADAGDQBaADASCYAJABBHCBDGABAI",
   "FKBDL6BDdkBCABAFAYABAXBFABAHAKBEfoCAkBDnBAkBAPANkBmGABEBB5LAEBHABAEBpBAEBhBAEBHABAEBPA5BAEBjC",
   "BgBCaF2CBGB9UC5CGWIYIULNADACL+CBKFKFaF5CGrBEmCJfAMDMDBCqBBFKsBDaFLC+BBhCAdBLFKFOBfwBtCAmFH8BC",
   "PC+BErBBLHrBE2QBGBmBBGBIABABABAfB1BAPAOBGATBDAJAlDAMBbANChBOhBOsED6UVLU04BBgBA9KEtBABEBB4BGCN",
   "YIHAHAHAHAHAHAHAHA+DhBaA5CL2GZwCA2CBnDErBA+CA2CIwBAtzcC3BI8KT4FHuGBCABAIU7BCKF4BHmCHMF0DKeCuC",
   "ALDhBA3BIOBKBnDXcJGBGBGIHAHA8BD+DBKFk9KLXDxBDuzIBqDlBHLFEaAFABACACA9DP9NB2BGBfqBFzBATAEDFAnEB",
   "BA+FCGBGBGBDCHAHJFBMAaATACAPBOhB7DEDDtBC4CANCBuBuBhEdCxBOcDkBIeErBEeAlBDOpB+EBKFkBDkBDoBH0BKM",
   "APAHACALAPAHACC0BL3JIWJIXGAqBAJkCGBBAsBACCBBXAoCHJvBTACEhBCbEB/B4BDUByBACEIADAdBDDKGJGgCfnBDM",
   "I2BCdBbEaGELHvCpC2BzBMzBGuBHKFmBCdHCvGfAqBADBCPD2BsBHqBValBcTXIuCDkBIkCJBBZGKF1BASHnBIgDAUKSA",
   "vB9BHABAEAPALF7BEKFEAIBCBWAHACAFAKBCBDBBFBEHBHCFKKABBBAmBAKABBBAEAKACHCc8CAFdoCHKlF2BBmBhBlCK",
   "KFNS6BFKFUbbBPDX4F8BjDzCLIBBBIACAeACBMIKlCIBuBBLaoCHzCMpCGK1FiBNKFJAtBAOJdCgBBWAOoCHACAsBCBAC",
   "AJHKFGACAlBACAGGK1JZGRApBCd0CBOyBM7clDvDAFKkGryCjDM2iBJ78DEnS41G6Bl2B5RGfAKDxCAKFeBGJmCJKAHAV",
   "ETvN6BlG7CkDrCD5BGR/BFKCN4/FH2mBoBKm3IEAHACAjJOBcDBBNEHsMjoCrDENCJGKBI76D6HF0NrCuBBXI0D7B2HJn",
   "BBiGUmC5DULUL3CIZmE1CAnCACBBBCBEAMABAHAhCAEBIAHAcAEAFABCHA0KBkJB+VOFAPviBfFG0GHARBHACAFE+BgBB",
   "vDtBCOBKDC/JfQ6BEBvOqB1GrBDB/OHAEACAPAlGBQoBsCDKDCwYkCrC9BhGEAbACABBBAKAEABABFBDBABABADACABBB",
   "ABABABABACABBEAHAEAEABAKAREDAFARzBCtIsBDkDLPBPAPAlBJuF3BdMsBDJGCNG5E4eDRCNC3DD/CFMDBOMD4BHKFo",
   "BHeBMDC9B0KLOBNCKE4BGPBLFJGzEAmDlgBg3pBf6hEF+GBi0FNxpHOuThtC+QhvBr6EEgjEwi3VBdgD/DwHvw/B+//BB",
   "+//BBGgg4B/nGg4hc9//BC9//BspBhDZ6BApBXBHBABABABABABABABABABABABABABABABABABABABABABABABABABAB",
   "ABBBABABABABABABABBBABABABABABABABABABABABABABABABABABABABABABABACABABCCABACADBEACADCCACABABA",
   "CABBBACADABACBCCGACACABABABABABABABABBBABABABABABABABABBCABADABABABABABABABABABABABABABABABAB",
   "ABABABABABABABABABABABABABGCACBBAEABABABABkCCZhGABADADCSAbiBBBDCBABABABABABABABABABABABEBACAC",
   "BzBvBBABABABABABABABABABABABABABABABABAJABABABABABABABABABABABABABABABABABABABABABABABABABABA",
   "CABABABABABABBBABABABABABABABABABABABABABABABABABABABABABABABABABABABABABABABABABABABABABABAB",
   "ABABABABABABABABAwBoBn6CqBCC4XFikCIBA1DrB/BMBhBmDABABABABABABABABABABABABABABABABABABABABABAB",
   "ABABABABABABABABABABABABABABABABABABABABABABABABABABABABABABABABABABABABABABABABABABABABABABA",
   "BABABABABABIBABABABABABABABABABABABABABABABABABABABABABABABABABABABABABABABABABABABABABABABAB",
   "ABABABABABABABABIIFKHIHIFKHIHINCHIHIHIEBBGADCBBIDCBIHKCBByIADBDAbAEAEACBIDEA1BAr1CvBBADBBABAB",
   "AEABBBFFABABABABABABABABABABABABABABABABABABABABABABABABABABABABABABABABABABABABABABABABABABA",
   "BABABABABABABBHABAEAMlBBAFAzoeABABABABABABABABABABABABABABABABABABABABABABATABABABABABABABABA",
   "BABABABABAnEABABABABABABCBABABABABABABABABABABABABABABABABABABABABABABABABABABABABABABABHBABA",
   "CABABABABAEABACABCBABABABABABABABABABAFAFABABABABABABABAEABACADABABABABABAaADA1ZqBFIHvCg6TGME",
   "phBZtmBnBoEjB7EKBOBGBBj4ByB9DV65CfgsVf6sZZaGBRaZaDBABGBKaZaZaZaZaZaZaZaZabcYBFaYBFaYBFaYBFaYB",
   "FBA05BJBTGF3vChB2EwVRELOEHABAlEAFA+OAmHAkFBtIBEAfAJADAgFAnFA0mBA/DA1RA62BArDAjTAwOFuF+BNAiBkB",
   "xVANAQM/+CBxHA/FA1OArBEFAhDB9CC24bAinBFuIAyDAcB5DIwCAXApDCDB1OAWApEAsDAVBnDDJAmgVAtBBg/BFBpBB",
   "IzsBAgBAwuXD8PCoBBmRMgCBBAsgQDBGBBxhM9BpGGtdA/iBAghBqFAPAgIAEDwGB6ZaEDtBfBJjBBBiDBAYBKCCAQABd",
   "d4CLAYgBVVqBYHKFXBFRoB7B1BDASAHJQOEHCBCVBGBADDDAQANBBCOBKAIFEBCVBGBBBBBBfDBATCQIBCBVBGBBBEDAS",
   "APBXALHCBCVBGBBBEDAeBBCPARABFDCBDDBBABBDBDCDLWA0BHBCBWBPDAaCCACBeAEHBCBWBJBEDAfBBBPBRIBCBoBCA",
   "QAFCICYFFRDXBIBACG6BvBBBMF7BBBABEBXBABJBBJACEXDgBA/BHBjBbEzDqBUAQFEDDADBHCEMMAxDoKBDCGBABDCoB",
   "BDCgBBDCGBABDCOB4BBDCiClBPxDrTCQBZFqCGHHRNSOROMBCPzBoBAjCiBB0BHEChBBAFlCKexBdCELrBEZ2BWJ0BwFu",
   "BRH2BdNBKrBajBpBCKdxDDBFBBDA6hBD3/C3BYWJGBGBGBGBGBGBGBGnRA1BAE1CIAB5CEAFqBB9CRfwBPgQ/tGgC0wUB",
   "2jBjCnBIrIEPKBiCAxBlCpFAnDADGBCBDBWdzBOxB+BFDABBLbKWZcHuBtBECIKEBoBXCBHUPBFDADxBBADBCECABAYBD",
   "KHAOFCFCFJGBGxEiBdj9KMWEwBkoItLCpDjCABJBMBEBABBBBBrDhBqLS/BC1BoBL0DEBmEpDJBsBCeDFCFCFCCjBLBZB",
   "SBBBOCNiB6DlMcDwBvBfNTBHGlBKdCjBEHgEtCiDnBIzB8CzBM2JJVKH4EFCABrBBBDACWKWJehCSBBKVKZmC3BGBgCAP",
   "DBCBcqBcDcjBHBbb1BKVKSNRuDoC3FjBmBDBAwJpBGBQC7BcKAIVqBRuBUbWM0B5BBCANsBgBYajBdACAIiBDAMvBODVA",
   "BAjBRBYTB/BGBABDBOBJHuBmBHCBCVBGBBBEDASAMEeJBACABlBBAZABAsB0BSDUCevBUBBA4FuBpBDkBvBUA7BqBNAnC",
   "alBG5FrBzGHCACHBBBXPABA+CHCmBQABAcAKnBHAVALtBTASoCnGgBfIBkBRAxBdwDGBBBlBVAZFBBBfOAnKSPABMBhB8",
   "DAvC5cmHjGsyCgDPvhBRFZ68DFmS51Gdi3B4RHeRuCRdSvBzBUFSzNnB1MqCFAvF3/FI1mBpBJ33IiJPAdCCAODIrMkoC",
   "qDFMDIHJwzIA1PsBhBAhKdSrBkPalHdCAvPGBDBBBOBkG7pBDBaBBBACABJBDBABAGAEABABABCBBBACABABABABABBBA",
   "CDBGBDBDBABJBQFCBEBQkqE/2pBgB5hEG9GCh0FOwpHPtTitC9QivBq6EF/iEUlOACACAmBA1sHHIHIHMAPAvBA2oBhCZ",
   "lDWBGhBABABABABABABABABABABABABABABABABABABABABABABABABABABABACABABABABABABABACABABABABABABAB",
   "ABABABABABABABABABABABABABABABABBBABADBBABBBCCDBBBCDBBBBABABBBACABBBCBABBDAHACACACABABABABABA",
   "BABACABABABABABABABABACACABCBABABABABABABABABABABABABABABABABABABABABABABABABABABABABAHBBBCAB",
   "DBABABABAhJABADAIAGABCBABBBQBIjBACCDABABABABABABABABABABABAFACABBCyBwBABABABABABABABABABABABA",
   "BABABABABAJABABABABABABABABABABABABABABABABABABABABABABABABABABABBBABABABABABACABABABABABABAB",
   "ABABABABABABABABABABABABABABABABABABABABABABABABABABABABABABABABABABABABABABABABAClBp6ClBBAFA",
   "yW1CzkCAGqBCCgKABABABABABABABABABABABABABABABABABABABABABABABABABABABABABABABABABABABABABABAB",
   "ABABABABABABABABABABABABABABABABABABABABABABABABABABABABABABABABABABABAJABABABABABABABABABABA",
   "BABABABABABABABABABABABABABABABABABABABABABABABABABABABABABABABABABABABABABAJHIFKHIHIFLABABAB",
   "AIHoCDMDMDMELDmIAEADCCCCADEGABABABDCDKBFA9BA8zCvBwBABCCABABABDBACAICBABABABABABABABABABABABAB",
   "ABABABABABABABABABABABABABABABABABABABABABABABABABABABABABABABABABABABABAIABAEAtqeABABABABABA",
   "BABABABABABABABABABABABABABABABABATABABABABABABABABABABABABABAnEABABABABABABADABABABABABABABA",
   "BABABABABABABABABABABABABABABABABABABABABABABAKABABBBABABABAEABACABADABABABABABABABABABABEBEB",
   "ABABABABABABABDBABBDAFABABABAYAr5VZlmBnBoEjB8EKBOBGBBq3ByB9EV65CfgsVfgtZZaZaZaABBCACBCDBHaZaB",
   "BDCHBGbBBDBEBADGbZaZaZaZaZaZeYhBYhBYhBYhBYhBA1pEhB8LjoCA3BACCIDBByBB6BCGBCBKArBA6BCiCA6BCIABB",
   "1BB6BABAGBCBKAmDBBBDCBCKApBC9BD9BB6BABECBBBJBcAOB6BCFCBCKAqBBrCCGHSBqKB/BArFBEAGACBZBKCCGVBCF",
   "CAKC4zBAeAhEAHHBB6KDCCEBBFgHB6BABAJABBIFxEAwBAFABEBB9BAeAEBCA8BACCBADBwBHIBrFAVA25EBz/dBCA4CB",
   "yBPuEBvBAwBBEBCCuDBCBYAtBABAtDACBFAtHBBBBBBAzgZABA/DAtBCEBzDAYB7BAwBCJBNA9CCDBBAqFCfB6BBBDCBC",
   "CJAKB0CCHACABDBBBAlDCIBDAqDCGABDCAtHCGDCAxDCIBBAtDABBGAnDABBEAlICJA3HFBBEACABAuECIDEA0CAdB+BA",
   "3MAOAqDAHACA1GEEBBA+KBMAwBBIBBAovQCkxD2BoDBzrYBGFKokBB0xFA+wBDBCrshBCqWgYvDzIEpIsBBABBBBBAoCK",
   "wBUQAlDGCFCBBDjBAea7CK6BIJAYDBIBCBErBC7BIqBXBf3BABAEHEADGKBdA6BAEDIAUBaACB5BAEBEBCCDAeBDALB5B",
   "AEEBBEAUBWFBA6BACABDIAHBLBeA9BAMAyBADA3BABCFCBDHBLBdA6BACAGAFBUBcB5BBEDIAUBdAoCAHCBA6CACGMHiD",
   "ACILGpCBbABABA3BNBEBBFKBjBJAmDDBFBBCBZBECQDNACBGAPA/VCydCdBeBeBgCBBGIACKJAtBCBA1DBiBA2DCEBJAG",
   "C7GBCA6BABGBABACHGJCAwBNBPxBDwBABEBAFAoBIMBgBDCBBC4BABBDABC6BHCB4ECBMBGEAGADBmG/BwWMEADL+/CCt",
   "EAgDfqRDrDB0udAEJgBBwCBwIADAEAZBFA3EBaRNAmBHZKuBCwBACDCBnBAjCFCBCBMAIAvBAzBABCCBFBBAqBBIAuHAC",
   "AEAw5TAhXPQPteAiHA1EEm0BCBBFDoBCEAlFB9RDhCE9JBvCDmCKxBD7DA2BOpBACBKCxBDCBHA9BCkBEBH+BAMB0BIKD",
   "CA/CCCABBGACA9EADHVB5BBDAlBGDEmCFNABABAOB1CHCCBAXA0CFBAEBBBuHDGBBBbB1CHCABBqDABACFBAlDABACDBE",
   "jIIBBgIBBAEAwEDCBEAgBJoBFCDIAJFCCuBMBB2MGBFBAyCVCGBBBB6DFDABBBGBAoCBDABA7KBLB0BEFABAXAlnFAGOo",
   "mLLDCguCE7BG4gBA/BDxCA4lTBhzEtBCWgRCRHCGeD0EC79B2BExBIAOAWEBOwqBGBQCGBBBEkDAgFG3LA9BD8PD+HBgX",
   "GtDG19lYvHuEwBJmxBJmEJmGJ8MJ2DJ2DJ2DJ2DJ2DJ2DJ2DJ2DJ2DJgDJ2DJmCJ2IJmCJm6BJmBJsJJgEJmFJGJ2FJ2C",
   "JmEJGJmuiBJmVJmBJmGJWJ2CJ2MJ24UJmsBJmkCJGJ8YJgEJ8BJwEJ2IJ2KJ2DJ2LJmDJGTsCJmNJmDJ2UJ2CJ2HJmCJm",
   "NJ2uQJmpCJ2CJmEJ2QJ27XJ02CxBgqCJmNJ2PJ3HJ1aJ20EJYu3FCvzCiBCD+zDAZIOCr1dJwyW0BsOAIAmEEqhIuDwEy",
   "FBFACC1pCF4LF4DClEG5GGRIxNJ1hBTzjBJgPA10BADFGJmGPpBA2W7BuCV2TdprBA0kBDqEJeHBOgBJnBOwrdFxmWsBh",
   "CDRB1KakBD0pBHZGnBIrCEWFgFBCPCtBgCI0BBeCrCEoDHYHpBGqKFgLe+EJqBDwDGmET7LTlqBBuNInbSzaUm8SG+YWp",
   "hZTMTsDYuqFIhd6BBCBDsCsBBOieMM/CA/+HBTA+u3BBYCvHAoBtBA8qBAzBAhyDAlgBApgCFhwDACAfBEAcA+NATAvDA",
   "wszBBlBAKApFAgzDA+JA4EpBAzBAfA91DABA+6BAptCA3BAPA6TABAeA+hBABABABABABABAwCAgBABABABABA0MABABA",
   "BABABABABABABABAgCABAhBAlhBABABABAsBABABABAsNABABABABADABABABACB+ozBA5GAdABABABABABABABADARAB",
   "ABAqFAzBAfACACAU7FA96HADAcAouDABAEACAPADAWrFAs7HACBCAZAouDABAEACAPADAiMhBCBCCABABBKBDBbAkCAFA",
   "OBHA+VAIAyOFpBA2BACACAsBBUBBBNABCqCDmDArBNpHC2BOfAlIBKAsEA4DA5DAmMAMAvLA6CAKBoFOBAwDAqCEEBvDF",
   "rFAkTIlYA8DCnCB9ECBClBFBD5JB4GBgEGBFgFBKGcC8DD7BE+BBgCHLAiaBIHIICDCCDKBABJ6kDDBBwDAvEBECCACIB",
   "BBACBKEBJCDBABMCCsNC5BA9FAigdBtICjDAKAzDF8LD2CBoBCBAxBBvBAhDMQB8DD+DBQB5HAkxUGCAWAUBCDDCBDHCG",
   "ABB1ECBCCABABBKBDBbAkBACB6MC8UAwBA+MAnXAnGAfAwIImBAwDGiCG5CD4dEsBD9FGtDBBD+DDwBBvCDEANABC4CFr",
   "DAqJBBByDEKBBAoDA6HWpDCcMsCAiEC8HAoIC7EA8CHzCCBE9CJ3GA/CEqBBlUBqCMvFAwjBE87CB7zOBlEAhCEIAoRCn",
   "JDnKA8lTAnvHEz7CA+aB+EoBAyBAfA+1DABA+6BA+rCADAmBA3BAPA6TABAeA+hBABABABABABABAwCAgBABABABABA0M",
   "ABABABABABABABABABABAgCABAhBAlhBABABABAZASABABABAsNABABABABADABABABACAhpzBA3GAdABABABABABABAB",
   "ADARABABAqFAyBAfADACAqBkBA9DDpnBA7DAyPByPBHA1HAnIAlSA7sCAkmCgB37hBAjuVAsDA6EA7GBDB2/HD+4wBAwt",
   "CA+B+CABAnCAGAEADApQDMNFGBABQ1DAOBioBA05FABCLCNCNCNB8kEBjzdWJBnDBweAOBmiUQ7bABAiFA3g9BEiErBAQ",
   "C9BABAtBAEAlBAfA+XAvQC7xGANAnBCNCrEAnBEGAkCEFBEACACAHAfBCABAfrIgBB6CAeYoBF1OAJA2BHvDAwKECeKPg",
   "IiEW+BEfChIwBUCF8+zBA4ZABCkFAQC9BABAjEAGDhtDBxpyBAZAfAZAfAZAfAZAfAZAs5FB2LmFACAEABAxeAqIB/DBu",
   "GAKATB3HAjQA1LAiEFBAkEAvGApBAnMCPABCCFUABABAlEHBFBBFDlGBwXJzWAyWA9EhBhLJJIjsBBBDBBKABBGFBABAB",
   "AEALBOABBBA6BBJECDBBBBBGBeCBBABesIHETCGCwCBdZnBGnCWKxCtCW2FBIB1BIuDB3HsBrBgC/HgQvBVBGmBCfBoDl",
   "HFlLBuBZB4CM1GaPEANBMAVBGBwKBEJgBlBJAQeLdIAPfKmBP/JguG/Bw0V2BhbDKBBA9RCm2UP/DAtBCkPADAEBNB5JI",
   "5BQCCBMDAvBsB6zBBvSA2jDA1kCHEQq6SDFA2qUAj7DvHQzN8EzD8B1HKmBC7BFCWBHdE8BVhCDA6F2CplB/P3BDyBHBN",
   "BBo2BA86CAhEAxWrBEjDMOCOBOBkBXgF4BcNrBEIHBOF6E6HF3WEQDMD2DE+CGLEAPLE3BIJGnBIdCLEB+BzKMNCMDJF3",
   "BHOCKGIHyEB7CCohIACphIAOgBA/DA/uFA/rCKkBAvBAg9DA"]

/-- The names of groups of general categories. The short name of a group starts those of its
members, except that the cased letters are those in upper, lower and title case. -/
def categoryGroupNames : List (List String) := [
    ["C", "Other"], ["L", "Letter"], ["LC", "Cased_Letter"], ["M", "Mark", "Combining_Mark"],
    ["N", "Number"], ["P", "Punctuation", "Punct"], ["S", "Symbol"], ["Z", "Separator"]]

end Coverage.Text.Property
