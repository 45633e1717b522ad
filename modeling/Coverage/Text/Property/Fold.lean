/-!
# Letters that differ in case only

Letters that differ in nothing but their case fall together when case is left out of account.
-/

namespace Coverage.Text.Property

/-- The sets of letters that fall together, packed as groups of how far the first lies behind the
first of the set before, and each of the others behind the one before. -/
def packedFolds : List String :=
  ["ChCgBCBgBCBgBCBgBCBgBCBgBCBgBCBgBCBgBCBgBDBgB/lICBgBCBgBCBgBCBgBCBgBCBgBCBgBDBgBsICBgBCBgBCBg",
   "BCBgBCBgBCBgBCBgBD7CnXgBCLgBCBgBCBgBCBgBCBgBDBgBmiICBgBCBgBCBgBCBgBCBgBCBgBCBgBCBgBCBgBCBgBCB",
   "gBCBgBCBgBCBgBCBgBCBgBCBgBCCgBCBgBCBgBCBgBCBgBCBgBCBgBCB/tHCgB5DCBBCCBCCBCCBCCBCCBCCBCCBCCBCC",
   "BCCBCCBCCBCCBCCBCCBCCBCCBCCBCCBCCBCCBCCBCCBCEBCCBCCBCDBCCBCCBCCBCCBCCBCCBCCBCDBCCBCCBCCBCCBCC",
   "BCCBCCBCCBCCBCCBCCBCCBCCBCCBCCBCCBCCBCCBCCBCCBCCBCCBCDBCCBCCBCDjGCByGCBBCCBCCuGCBBCCtGCBtGCBB",
   "CDvCCBqGCBrGCBBCCtGCBvGCBhDCBzGCBxGCBBCCjFCBhypBCBzGCB1GCBiECB2GCBBCCBCCBCC6GCBBCC6GCDBCC6GCB",
   "BCC5GCB5GCBBCCBCC7GCBBCEBCD4BDFBBDDBBDDBBCDBCCBCCBCCBCCBCCBCCBCCBCDBCCBCCBCCBCCBCCBCCBCCBCCBD",
   "DBBCDBCEBCCBCCBCCBCCBCCBCCBCCBCCBCCBCCBCCBCCBCCBCCBCCBCCBCCBCCBCCBCEBCCBCCBCCBCCBCCBCCBCCBCCB",
   "CIrxKCBBCDoxKCB/xKCB/xKCBBCDlCCBnCCBBCCBCCBCCBCCBCC/wKCB8wKCB+wKCKvqpBCFrqpBCDnrpBCBoppBCBkqp",
   "BCEkqpBCB3vKCBhqpBCF9vKCMnvKCFjqpBCFqppBCW1opBCByopBEnF0CgBlgHCrBBCCBCEBCFiECBiECBiECC0DCHmBC",
   "ClBCBlBCBlBCCgCCC/BCB/BCBjiHCBgBDBgBeCBgBCBgBDBgBgCCBgBCBgBEBgBZjBDCgB2BCBgBCCgBCBgBCBgBDBgBW",
   "DBgBwBDCfBCBgBCBgBDBgBPCBgBCBgBDBgB9qHCBgBCBgBCFzhHCfICJBCCBCCBCCBCCBCCBCCBCCBCCBCCBCCBCCBCEH",
   "CFBCDBCGwCCBwCCBwCCBwCCBwCCBwCCBwCCBwCCBwCCBwCCBwCCBwCCBwCCBwCCBwCCBwCCBgBCBgBDBgBuiGCBgBDBgB",
   "tiGCBgBCBgBCBgBCBgBCBgBCBgBCBgBCBgBCBgBDBgBkiGCBgBCBgBDBgBiiGEBgBiiGBCBgBCBgBCBgBCBgBCBgBCBgB",
   "CBgBDBgB8hGCBgBCBgBCBgBCBgBCBgBCxBBDCBkhGCCBCCBCCBCCBCCBCCBCCBCCBCCBCCBCCBCCBCCBCCBCCBCKBCCBC",
   "CBCCBCCBCCBCCBCCBCCBCCBCCBCCBCCBCCBCCBCCBCCBCCBCCBCCBCCBCCBCCBCCBCCBCCBCCBCCPCBBCCBCCBCCBCCBC",
   "CBCCBCDBCCBCCBCCBCCBCCBCCBCCBCCBCCBCCBCCBCCBCCBCCBCCBCCBCCBCCBCCBCCBCCBCCBCCBCCBCCBCCBCCBCCBC",
   "CBCCBCCBCCBCCBCCBCCBCCBCCBCCBCCBCCBCCBCCBCCBCCBCCBCCBCCBCDwBCBwBCBwBCBwBCBwBCBwBCBwBCBwBCBwBC",
   "BwBCBwBCBwBCBwBCBwBCBwBCBwBCBwBCBwBCBwBCBwBCBwBCBwBCBwBCBwBCBwBCBwBCBwBCBwBCBwBCBwBCBwBCBwBCB",
   "wBCBwBCBwBCBwBCBwBCBwBCq6CgjHCBgjHCBgjHCBgjHCBgjHCBgjHCBgjHCBgjHCBgjHCBgjHCBgjHCBgjHCBgjHCBgj",
   "HCBgjHCBgjHCBgjHCBgjHCBgjHCBgjHCBgjHCBgjHCBgjHCBgjHCBgjHCBgjHCBgjHCBgjHCBgjHCBgjHCBgjHCBgjHCB",
   "gjHCBgjHCBgjHCBgjHCBgjHCBgjHCCgjHCGgjHCDg+CCBg+CCBg+CCBg+CCBg+CCBg+CCBg+CCBg+CCBg+CCBg+CCBg+C",
   "CBg+CCBg+CCBg+CCBg+CCBg+CCBg+CCBg+CCBg+CCBg+CCBg+CCBg+CCBg+CCBg+CCBg+CCBg+CCBg+CCBg+CCBg+CCBg",
   "+CCBg+CCBg+CCBg+CCBg+CCBg+CCBg+CCBg+CCBg+CCBg+CCBg+CCBg+CCBg+CCBg+CCDg+CCBg+CCBg+CChVw+lBCBw+",
   "lBCBw+lBCBw+lBCBw+lBCBw+lBCBw+lBCBw+lBCBw+lBCBw+lBCBw+lBCBw+lBCBw+lBCBw+lBCBw+lBCBw+lBCBw+lBC",
   "Bw+lBCBw+lBCBw+lBCBw+lBCBw+lBCBw+lBCBw+lBCBw+lBCBw+lBCBw+lBCBw+lBCBw+lBCBw+lBCBw+lBCBw+lBCBw+",
   "lBCBw+lBCBw+lBCBw+lBCBw+lBCBw+lBCBw+lBCBw+lBCBw+lBCBw+lBCBw+lBCBw+lBCBw+lBCBw+lBCBw+lBCBw+lBC",
   "Bw+lBCBw+lBCBw+lBCBw+lBCBw+lBCBw+lBCBw+lBCBw+lBCBw+lBCBw+lBCBw+lBCBw+lBCBw+lBCBw+lBCBw+lBCBw+",
   "lBCBw+lBCBw+lBCBw+lBCBw+lBCBw+lBCBw+lBCBw+lBCBw+lBCBw+lBCBw+lBCBw+lBCBw+lBCBw+lBCBw+lBCBw+lBC",
   "Bw+lBCBICBICBICBICBICBIDzkCiuiBBCBBCwHkwiBCEm3DCR4xiBCyDBCCBCCBCCBCCBCCBCCBCCBCCBCCBCCBCCBCCB",
   "CCBCCBCCBCCBCCBCCBCCBCCBCCBCCBCCBCCBCCBCCBCCBCCBCCBCCBCCBCCBCCBCCBCCBCCBCCBCCBCCBCCBCCBCCBCCB",
   "CCBCCBCCBCCBDCB6BCCBCCBCCBCCBCCBCCBCCBCCBCCBCCBCCBCCBCCBCCBCCBCCBCCBCCBCCBCCBCCBCCBCCBCCBCCBC",
   "CBCMBCCBCCBCCBCCBCCBCCBCCBCCBCCBCCBCCBCCBCCBCCBCCBCCBCCBCCBCCBCCBCCBCCBCCBCCBCCBCCBCCBCCBCCBC",
   "CBCCBCCBCCBCCBCCBCCBCCBCCBCCBCCBCCBCCBCCBCCBCCBCCBCCBCCICBICBICBICBICBICBICBICJICBICBICBICBIC",
   "BICLICBICBICBICBICBICBICBICJICBICBICBICBICBICBICBICJICBICBICBICBICBICMICCICCICCICJICBICBICBIC",
   "BICBICBICBICJqCCBqCCB2CCB2CCB2CCB2CCBkDCBkDCBgECBgECBwDCBwDCB+DCB+DCDICBICBICBICBICBICBICBICJ",
   "ICBICBICBICBICBICBICBICJICBICBICBICBICBICBICBICJICBICCJCQJCNICBICPICBICEHCOJC/JcCuBQCBQCBQCBQ",
   "CBQCBQCBQCBQCBQCBQCBQCBQCBQCBQCBQCBQCUBCzZaCBaCBaCBaCBaCBaCBaCBaCBaCBaCBaCBaCBaCBaCBaCBaCBaCB",
   "aCBaCBaCBaCBaCBaCBaCBaCBaCx5BwBCBwBCBwBCBwBCBwBCBwBCBwBCBwBCBwBCBwBCBwBCBwBCBwBCBwBCBwBCBwBCB",
   "wBCBwBCBwBCBwBCBwBCBwBCBwBCBwBCBwBCBwBCBwBCBwBCBwBCBwBCBwBCBwBCBwBCBwBCBwBCBwBCBwBCBwBCBwBCBw",
   "BCBwBCBwBCBwBCBwBCBwBCBwBCBwBCBwBCxBBCHBCCBCCBCHBCDBCLBCCBCCBCCBCCBCCBCCBCCBCCBCCBCCBCCBCCBCC",
   "BCCBCCBCCBCCBCCBCCBCCBCCBCCBCCBCCBCCBCCBCCBCCBCCBCCBCCBCCBCCBCCBCCBCCBCCBCCBCCBCCBCCBCCBCCBCC",
   "BCCBCCBCCBCCBCCBCJBCCBCFBCuqeBCCBCCBCCBCCBCEBCCBCCBCCBCCBCCBCCBCCBCCBCCBCCBCCBCCBCCBCCBCCBCCB",
   "CUBCCBCCBCCBCCBCCBCCBCCBCCBCCBCCBCCBCCBCCBCoEBCCBCCBCCBCCBCCBCCBCEBCCBCCBCCBCCBCCBCCBCCBCCBCC",
   "BCCBCCBCCBCCBCCBCCBCCBCCBCCBCCBCCBCCBCCBCCBCCBCCBCCBCCBCCBCCBCCBCLBCCBCDBCCBCCBCCBCCBCFBCFBCC",
   "BCCwBCCBCCBCCBCCBCCBCCBCCBCCBCCBCCBCLgdCBBCCBCCBCCBCCBCCBCCBCCBCFBCCBCDBCEBCGBCCBCCBCbBCw4UBC",
   "8gBgBCBgBCBgBCBgBCBgBCBgBCBgBCBgBCBgBCBgBCBgBCBgBCBgBCBgBCBgBCBgBCBgBCBgBCBgBCBgBCBgBCBgBCBgB",
   "CBgBCBgBCBgBCmmBoBCBoBCBoBCBoBCBoBCBoBCBoBCBoBCBoBCBoBCBoBCBoBCBoBCBoBCBoBCBoBCBoBCBoBCBoBCBo",
   "BCBoBCBoBCBoBCBoBCBoBCBoBCBoBCBoBCBoBCBoBCBoBCBoBCBoBCBoBCBoBCBoBCBoBCBoBCBoBCBoBCpEoBCBoBCBo",
   "BCBoBCBoBCBoBCBoBCBoBCBoBCBoBCBoBCBoBCBoBCBoBCBoBCBoBCBoBCBoBCBoBCBoBCBoBCBoBCBoBCBoBCBoBCBoB",
   "CBoBCBoBCBoBCBoBCBoBCBoBCBoBCBoBCBoBCBoBC9EnBCBnBCBnBCBnBCBnBCBnBCBnBCBnBCBnBCBnBCBnBCCnBCBnB",
   "CBnBCBnBCBnBCBnBCBnBCBnBCBnBCBnBCBnBCBnBCBnBCBnBCBnBCCnBCBnBCBnBCBnBCBnBCBnBCBnBCCnBCBnBCr3Bg",
   "CCBgCCBgCCBgCCBgCCBgCCBgCCBgCCBgCCBgCCBgCCBgCCBgCCBgCCBgCCBgCCBgCCBgCCBgCCBgCCBgCCBgCCBgCCBgC",
   "CBgCCBgCCBgCCBgCCBgCCBgCCBgCCBgCCBgCCBgCCBgCCBgCCBgCCBgCCBgCCBgCCBgCCBgCCBgCCBgCCBgCCBgCCBgCC",
   "BgCCBgCCBgCCBgCC+EgBCBgBCBgBCBgBCBgBCBgBCBgBCBgBCBgBCBgBCBgBCBgBCBgBCBgBCBgBCBgBCBgBCBgBCBgBC",
   "BgBCBgBCBgBC75CgBCBgBCBgBCBgBCBgBCBgBCBgBCBgBCBgBCBgBCBgBCBgBCBgBCBgBCBgBCBgBCBgBCBgBCBgBCBgB",
   "CBgBCBgBCBgBCBgBCBgBCBgBCBgBCBgBCBgBCBgBCBgBCBgBChsVgBCBgBCBgBCBgBCBgBCBgBCBgBCBgBCBgBCBgBCBg",
   "BCBgBCBgBCBgBCBgBCBgBCBgBCBgBCBgBCBgBCBgBCBgBCBgBCBgBCBgBCBgBCBgBCBgBCBgBCBgBCBgBCBgBCh1eiBCB",
   "iBCBiBCBiBCBiBCBiBCBiBCBiBCBiBCBiBCBiBCBiBCBiBCBiBCBiBCBiBCBiBCBiBCBiBCBiBCBiBCBiBCBiBCBiBCBi",
   "BCBiBCBiBCBiBCBiBCBiBCBiBCBiBCBiBCBiB"]

end Coverage.Text.Property
