/-!
# What to do with a token

The rows of the table of actions. Most rows consist of a few sets of tokens that are treated alike.
-/

namespace Coverage.Script.Automaton

/-- The lists of actions, packed; an action is its argument times six plus its kind. -/
def packedChoices : List String :=
  ["BDB+SB+3IBmeBm2HBuiDBmnHBsnHB0pHBysJBwlBByrBBmqBBwoBBgqBBqoBBopBBmSBsqBBm/HBupBBmYB0pBB6pBB8o",
   "BBusHB+QBmiBBipBByqBBswBBi0DBkjBB+vGB25GB4QBkrHB6RBumHB0mHBixGB88GBqhDBy4JB2qGBkgIBuRBm7GBs7G",
   "ByyDBwgFBgmGBmmGBgiBBqwGBykBB2oBB8iBBiXB0oJB4bBwiBBskBBquBB0mBB6gBB2KBoOBghBBmhBB4yDBqrBBwKBs",
   "nBBynBB2zJBoXB0jBB6sBBkuBB4kBB0sBBstBB6jBBg/BBgkBBwuBB6oJBmkBBytBBu/FB07HB2EBg8HBopHBupHBm8HB",
   "oUB8WBwwGBy7GBojBBiyBB4tBBs2BBMBo7HBu7HBipHB67HBujBBywBB+tBB80BBk1FB+kBB2iBB8xBBgtBBm2BBgSBmw",
   "BBkxBBmtBB20BBu1BBiUC+QgSB2uBBmzBBwnGByhBB6OBySBoyBBy2BBw7FBwyCB83BB6+BBq6BB2yCByxCB4xCBm5EB+",
   "5BB2qDB0OCyrB8EBusBBqxBB01BBovBBiLB2rBB8rBBq2JBwxBB61BB4iIB23EB2xBBg2BBkzGBiuJBqlBBisBB4wBBi1",
   "BBq7FBy0FB+wBBo1BB0hFBodB4hBBshBByxFB0aBuyBB23BB42BBw3BB0SC+QyrBBigHBohFBkoBBmiFBo1HBqQBykHB4",
   "kHBkiBB4HBoxDByvDBmjDB8QBkjFBg5EBs4GB+nHByHB2RBizCB8yCB26BBkzDB0RC+QwlBBkcBqpBB0jHB6yBBs5EBgP",
   "BumBBypJB4pJBy8HB2ZB2UBgTBqTB06GBuhFB02CBu2CB07BB++DB4nBB8wGBgYCqpBkoBB6eBiSBgfBmfBsfByfB4fB6",
   "hBByqHBuzCBozCBu/CB2QC+Qw7FB60JB00JBorJBirJC+QwZBwZB6aBqiBC4QqpBC4Q2ZByQBkUB0hBBy9FBmoFB6rGB4",
   "lFB24FBiqFBomBBuOB+nEBgqHBkRB+HB6pHB0lGB8EBm+GB2HB2pBBqRBwRBsiBB+iBBsjJBimBB86BBqfBw5JB27CBw7",
   "CBu+BB0gBB25JBmZByZBmcB4ZBscB2dB+ZB8dByPC+QwpBCwpB4nBBwoHBo3JBi3JBwpBB0dBsQBwfCqpBusBBqcBgwBB",
   "w0BBqgBBoVBqXBglBB+WBuVBwXBkXBikBBokBBiwBBijBB2iEBsqEB6vEC0tBmuBB+0IB0iJB0tBB4lIB+1DBoiGB+jDB",
   "q2GBu3GB8zGBmtHBwuHB8ZB6XB0xGBsiFBymGBugHB0gHBg+DB6oDBi3GBm4GBqvCBuXBw6BBi4BB64BBg5BB84CBq4CB",
   "szBB8KB48BByzBBuvBB85JBsnEB08CBu8CBq3BBoLBkjCB4zBB+zBBs7JBu+EBk9BB2mBB8mBBkaB0qCBwaB+rCBycBks",
   "CB2aB2sCB+cBitCBieBotCBobButCBueBmuCBm1JB8gIB2gID+QyrBgSBsxFC4QyrBB2lBC4Q2pBC2R0SCkU2UCiSgTB8",
   "RBqUBylBBuSBoSB4lBB+lBB+TB4rBByiBByuBB2tJBgiFB49FBmyGByYBoDBmHBm0CBs0CB8vCBiwCB0sHB+uBBmxBB+9",
   "CB85GB2oHBgMBkvCBy5EBmPBgkHB29HByoIB0rJBsyDBYBkBBsiICwpBisBB8pBB8oHB06JBu6JB0vBC+Q8pBBoMBqIB+",
   "7JB47JBk0BB0oGB8gBBihBBohBBuhBBk0HBgeB2fBy4GB4pDB2gBBqjBBwjBB6YBukBB+fB2jBBslBBgZB6bBwgBBuoDB",
   "0kBBkgBBwUBgcBqdBmlBBsZBwdB6xGB09DB6kCBsrBB0nCB6nCB4TB0zCB41DB0UBkiHB69DBy0CBi0GByVB40CB8BB+0",
   "CBk1CBsGB+VBq1CB+GBkHBo2CBwHBs3CB4jDB0oDBowCB+1GBuwCB0wCBq4FB6hCBmJB4JB+JBqKBqWB2WBgVBiyHBgxB",
   "BkEB27FB+xFBohIBkyFBq1FBw1FB21FBi5FBk+FBu5FBkmBB4PB6wBB4rIBilJBkqJB6lGBqqJBgyGB44GBq5GBw5GB6S",
   "B8UByzHBsTBmTB8wJBiVB8jBBgsGBqwJBqZBiRBkZB0VB6VBsHBiaBoaBkfBo6GB2wDBuhIBsSBgiIBqnGBuxDB4iFB8s",
   "BBg1GBm1GBs1GB6uGBy1GBypDB+pDByvGB4vGB2xHButBBguBB4vJBgDBmrBBwsBB2sBBgEB4YBs1DByjDBFBCBoCBuLB",
   "0xDBmyDB6wCB+bBm8BBo4BBm5BBs5BBgxCBudBs8BBu4BBy5BB45BB+rBC+rBxyCC+rB93BC+rBNC+rBv/FC+rBp7HC+r",
   "BhmGC+rB7+BC+rBnmGC+rBv7HC+rB17HC+rBjpHC+rBvRC+rBh/BC+rB7gBC+rB77HC+rB3EC+rBh8HC+rBppHC+rBvpH",
   "C+rBn8HC+rBpUC+rB9WC+rB3KC+rBpOC+rBrwGC+rBn7GC+rBt7GC+rBxwGC+rBr6BC+rBz7GC+rBjXC+rBhhBC+rB1oJ",
   "C+rBnhBC+rB3qGC+rBzyDC+rB7oJC+rB5yDC+rB1pHC+rB3yCBuPB0PBiPBoPBIBOBo7BBu7BBmMBsMBo/CBi/CBgxFBm",
   "xFBmiCByiCB+3CB04BBSB2hJB4iCB8hJB+5HBiiJBy8BBk4CB+nBB+hBB6vBBosBBq0BByMBwwDB2hDBsvDBwiEBmqEB0",
   "vEB89BB0+BBorGBg6CB65CB4mGBwmCB+mGBw9BB8oECsuB4uBBq7CBk7CB45EBsPBo+BBuvEB4uBB63DBsuBBuwIBulDB",
   "k4FBwzGB41GB0kCBo8CBi8CBysGBsxCB4sGB+iCB+5EBmGByGB4GBqHBgJBsJByJBkKB43CB62CB67BBeBkyCB+xCBk6B",
   "B24CBw4CB+8BBg9CB68CBqjCB05CBu5CBq9BBwoEBm3CBg3CBg8BBk/DB+PBiMB0vHB29BBqOBgGB2LB4rCB6PBgQBgiC",
   "BsiCBiGBiDBUB6MBmNByNB4NBoGBaBwOBuDB0MBuGB6GB2IBsKBwLBgNBsNB+NBkOBgBBmBB0DB0GBgHBwIB2OByKBmQB",
   "uMBqaB6DBkIB8OB8LB8aB4cBsBBibB8IBkdBoeBubBiJBoJBuJB0eB0JB6JBgKBmKC+QqQB4KB+KBkLBqLBkqDC4QsrBB",
   "4iBC+T0hBCqU4rBC+T6hBC4T6hBByTCyiBmwBBopEBw1CB81CBknGB0/CBqjFBwjFBylFByoCBgrBBwsCBqsCBypGB6xD",
   "B2jFB8jFB+lFB+pGB4vDBikFBokFBkmFBkqGB8iEBukFB0kFBqmFBqqGByqEB6kFBglFBwmFBwqGBgwEBmlFBslFB2mFB",
   "0bBgnBBsrICyiB20BBkrBBskHBivBBgzBBk3BByyGCotB6tBBinFBonFB6nFBo0GBwvIBunFB0nFBkpFB4yGBirGB0LB6",
   "hFByhHBotBByoFB4oFBoqFB6LCgxB1jHCgxBz9FCgxBhiFCgxB7yBCgxBzkHCgxB5kHCgxBnoFCgxB7rGCgxB1pHCgxB5",
   "lFCgxB34FCgxBjqFB+4GB6jHBkkDByiFBqnDBuhCB+iFB0hCBshHB6tBBqpFBwtGBuqFCyrB+oIB4xFB+9FBwpFB2tGB+",
   "oFBo5FB0qFB6qFBw+FB2pFBiuGBgrFBmrFBq+FB4jJB05FB65FB8+FBgmJBs6FBy6FBkTBuuJBkkJBqkJBmmJBsmJBqsB",
   "CqsB1pHBiqBBqmBBoqBBuqBB0qBB6qBB6zFB0zFB87FBi2FBi8FBqmIBo2FBu2FBo8FB2yFBwmIB02FB62FC6wBpzFB08",
   "FBitIBs3FBy3FB68FBguIB43FB+3FB+oBBkpBBi/FB4mJB46FB+6FBksBBu8FB8yFB2mIBg3FBm3FB8mIBinIBwmBBqsI",
   "BwsIBotIButIBmuIBsuIB2yIB8yIBg0IBm0IBg0FBkQB2+FBm0FB+jJBg6FBm6FBulJB0lJB+mJBknJB2nJB8nJBooJBu",
   "oJBklBBkmIBksIB8sIB6tIBwyIB6zIB4qBB8uBB0yBByjJBolJB6lJBymJBwnJBioJB+2BB+8HBggGBygGBkhGB2hGCkv",
   "BrTCkvBpiGCkvB16GBkvBB+7DB66GBwiHB2iHCwvBxnGCwvBjUBwvBBknDB82GBg4GBgsJB6sHBktJBqtJBuoGB8XB+jG",
   "BwrBCmH2vIBq0HBmyJCiwB3oBB8qGB2zDB82DB8pCB2XBkkGBinBC0wBhsGB0wBC0wB7XByrCBqiHBgyJB4WByWBunBCi",
   "tBrwJBitBCitBrZB0nBBkwGBiiDBilDB6/FB8hGBg+GB+0FB8/GBgWBqxHBo6DBokIBghHBmvJBmsGB+hHBmWBqvBBuqI",
   "BsWBoYBiYBuYB0YB8lHB83HB6lDBo5IBmkHBomHBs5HBw2GB+gJB45HB03GBqhJBsgGBuiGB2lHBimHB+gGB6iGBwhGBm",
   "jGB84FB09GB69GB6+HBosHBs/HBslCBssJBylCB+lCBkmCB6hIBovHB+yGBqjIB4wHB+oCB4oCBqpCBwpCBgoIB6yHCyu",
   "BzSBowBCowBvgHBuwBCuwB1gHCiwBjjBBmuBC8sBzmGB6kBB+qBB8iHBijHBojHBujHC2vBpjHB2vBC8vBvjHB8vBBqlH",
   "BwlHBk4IB6mHBgnHBynHB4nHB6iJBw6HBk5GBwkJB26HBuiJB86HBgjJBi7HBwQBw9HB89HBikCBi+HBokCB8pFBsyGBs",
   "mGBm1DBwTBo0JB2jIB4BB2nGB2zGBwCBs7DB8nGBioGBy7DCutB1hFCguBljFB8CBwFBooGBmoIB4SB+sGB47DB6oGC+u",
   "B1RBqpIBsEB+BBgpGBmnBBmpGB8vICmxB9TBy+DBkCCwsBpuGC2sBvuGB2vIBqCB0uGBsjDBymDBgvGBmvGB4mDB+mDBs",
   "vGBspDBg3IBm3IBs3IBw4FBoRBoiJB6IB2kJBqnJBmjJB8kJB0XBukCB+/HBmsJBk/GBurGBmVBmoBBonCBunCBsDB6zC",
   "Bg0CBsoCBmoCBglIBsvJBihFBkpCBsoBB6dBktGBozFBqEBmrCBgrCB8FB4DByoBBonBB2CB2FBuaB4oBB6nBBgoBBwvC",
   "B2vCB6rJBEBsYB4+GB4/HB8lBB+sJBmiIB+YB22DBmlIBmhHB6mBByvJB4EB+vJB2TBqtGB4rFByBB0qIByEB+EBkvIBm",
   "EBwBBkFBw1IBqFB21CBi2CBgbBmbBsbBybB8kDBwcB2cB8cBidBqiEB64EBs1JB03JBm4JBseByeB4eB+eB8fBigBBogB",
   "BugB"]

/-- The rows, packed; a row is a group of pairs of a set of tokens and a list of actions. -/
def packedActionRows : List String :=
  ["E5H/SAA2ChFgTIpE6HhTlCqENpDoB6CmCqDgCzBjCrEkC0BpCrDqC7CrCsDCuB4B0CmBhCnCtDsC8CtC9CuC+CvC/CwCg",
   "DxChDyCiDpBiCBjCjB2BEvBFwBgBjDYsEekDqB6BrBkCsB7BDlCAAiBsBuBxBkB3CtBmCdI6CtEgDIjLlCkLlBpFNpDPy",
   "BbiToB6CmCqDgCzBjClLkC0BpCrDqC7CrCsDCuB4B0CmBhCnCtDsC8CtC9CuC+CvC/CwCgDxChDyCiDpBiCBtIjB2BEvB",
   "FwBgBjDYmLekDqB6B9BjErBkCsB7BDlCAAiBsBsEuIkBvItExBtBmCdI1CnL2CqF2BoLgDIjLlCkLlBpFNpDPyBbjToB6",
   "CmCqDgCzBjClLkC0BpCrDqC7CrCsDCuB4B0CmBhCnCtDsC8CtC9CuC+CvC/CwCgDxChDyCiDpBiCBtIjB2BEvBFwBgBjD",
   "YmLekDqB6B9BjErBkCsB7BDlCAAiBsBsEuIkBvItExBtBmCdI1CnL2CqF2BoLgDIjLlCkLlBpFNpDPyBbkToB6CmCqDgC",
   "zBjClLkC0BpCrDqC7CrCsDCuB4B0CmBhCnCtDsC8CtC9CuC+CvC/CwCgDxChDyCiDpBiCBtIjB2BEvBFwBgBjDYmLekDq",
   "B6B9BjErBkCsB7BDlCAAiBsBsEuIkBvItExBtBmCdI1CnL2CqF2BoLgDIlTlCmTlBpFNpDPyBbyNoB6CmCqDgCzBjCnTk",
   "C0BpCrDqC7CrCsDCuB4B0CmBhCnCtDsC8CtC9CuC+CvC/CwCgDxChDyCiDpBiCBtIjB2BEvBFwBgBjDYoTekDqB6B9BjE",
   "rBkCsB7BDlCAAiBsBsEuIkBvItExBtBmCdI1CpT2CqF2BqTgDIrTlCsTlBpFNpDPyBbyNoB6CmCqDgCzBjCtTkC0BpCrD",
   "qC7CrCsDCuB4B0CmBhCnCtDsC8CtC9CuC+CvC/CwCgDxChDyCiDpBiCBtIjB2BEvBFwBgBjDYuTekDqB6B9BjErBkCsB7",
   "BDlCAAiBsBsEuIkBvItExBtBmCdI1CvT2CqF2BwT0C7HxTIyTlCzTN0ToB1TmC2TgC3TjC4TkC5TpC6TqC7TrC8TC9T4B",
   "+TmB/TnCgUsChUtCiUuCjUvCkUwClUxCmUyCnUpBoUBpUjBqUErUFsUgBtUYuUevUqBwUrBxUsByUDzUAAiB0UuB1UkB2",
   "UtB3Ud4U6C5U0CIpElCqEiF6UNpDoB6CmCqDgCzBjCrEkC0BpCrDqC7CrCsDCuB4B0CmBhCnCtDsC8CtC9CuC+CvC/CwC",
   "gDxChDyCiDpBiCBjCjB2BEvBFwBgBjDYsEekDqB6BrBkCsB7BDlCAAiBsBuBxBkB3CtBmCdI6CtE0CIpElCqEiF7UNpDo",
   "B6CmCqDgCzBjCrEkC0BpCrDqC7CrCsDCuB4B0CmBhCnCtDsC8CtC9CuC+CvC/CwCgDxChDyCiDpBiCBjCjB2BEvBFwBgB",
   "jDYsEekDqB6BrBkCsB7BDlCAAiBsBuBxBkB3CtBmCdI6CtE0CIpElCqEiF8UNpDoB6CmCqDgCzBjCrEkC0BpCrDqC7CrC",
   "sDCuB4B0CmBhCnCtDsC8CtC9CuC+CvC/CwCgDxChDyCiDpBiCBjCjB2BEvBFwBgBjDYsEekDqB6BrBkCsB7BDlCAAiBsB",
   "uBxBkB3CtBmCdI6CtE0CIpElCqEiF9UNpDoB6CmCqDgCzBjCrEkC0BpCrDqC7CrCsDCuB4B0CmBhCnCtDsC8CtC9CuC+C",
   "vC/CwCgDxChDyCiDpBiCBjCjB2BEvBFwBgBjDYsEekDqB6BrBkCsB7BDlCAAiBsBuBxBkB3CtBmCdI6CtE0ChF+UIpElC",
   "qENpDoB6CmCqDgCzBjCrEkC0BpCrDqC7CrCsDCuB4B0CmBhCnCtDsC8CtC9CuC+CvC/CwCgDxChDyCiDpBiCBjCjB2BEv",
   "BFwBgBjDYsEekDqB6BrBkCsB7BDlCAAiBsBuBxBkB3CtBmCdI6CtE0ChF/UIpElCqENpDoB6CmCqDgCzBjCrEkC0BpCrD",
   "qC7CrCsDCuB4B0CmBhCnCtDsC8CtC9CuC+CvC/CwCgDxChDyCiDpBiCBjCjB2BEvBFwBgBjDYsEekDqB6BrBkCsB7BDlC",
   "AAiBsBuBxBkB3CtBmCdI6CtE0CIpElCqENpDbgVoB6CmCqDgCzBjCrEkC0BpCrDqC7CrCsDCuB4B0CmBhCnCtDsC8CtC9",
   "CuC+CvC/CwCgDxChDyCiDpBiCBjCjB2BEvBFwBgBjDYsEekDqB6BrBkCsB7BDlCAAiBsBuBxBkB3CtBmCdI6CtE0CIpEl",
   "CqENpDbhVoB6CmCqDgCzBjCrEkC0BpCrDqC7CrCsDCuB4B0CmBhCnCtDsC8CtC9CuC+CvC/CwCgDxChDyCiDpBiCBjCjB",
   "2BEvBFwBgBjDYsEekDqB6BrBkCsB7BDlCAAiBsBuBxBkB3CtBmCdI6CtE0CIpElCqENpDbiVoB6CmCqDgCzBjCrEkC0Bp",
   "CrDqC7CrCsDCuB4B0CmBhCnCtDsC8CtC9CuC+CvC/CwCgDxChDyCiDpBiCBjCjB2BEvBFwBgBjDYsEekDqB6BrBkCsB7B",
   "DlCAAiBsBuBxBkB3CtBmCdI6CtE0CIpElCqENpDbjVoB6CmCqDgCzBjCrEkC0BpCrDqC7CrCsDCuB4B0CmBhCnCtDsC8C",
   "tC9CuC+CvC/CwCgDxChDyCiDpBiCBjCjB2BEvBFwBgBjDYsEekDqB6BrBkCsB7BDlCAAiBsBuBxBkB3CtBmCdI6CtE0CI",
   "pElCqENpDbkVoB6CmCqDgCzBjCrEkC0BpCrDqC7CrCsDCuB4B0CmBhCnCtDsC8CtC9CuC+CvC/CwCgDxChDyCiDpBiCBj",
   "CjB2BEvBFwBgBjDYsEekDqB6BrBkCsB7BDlCAAiBsBuBxBkB3CtBmCdI6CtE0CIpElCqENpDblVoB6CmCqDgCzBjCrEkC",
   "0BpCrDqC7CrCsDCuB4B0CmBhCnCtDsC8CtC9CuC+CvC/CwCgDxChDyCiDpBiCBjCjB2BEvBFwBgBjDYsEekDqB6BrBkCs",
   "B7BDlCAAiBsBuBxBkB3CtBmCdI6CtE0CIpElCqENpDbmVoB6CmCqDgCzBjCrEkC0BpCrDqC7CrCsDCuB4B0CmBhCnCtDs",
   "C8CtC9CuC+CvC/CwCgDxChDyCiDpBiCBjCjB2BEvBFwBgBjDYsEekDqB6BrBkCsB7BDlCAAiBsBuBxBkB3CtBmCdI6CtE",
   "0CIpElCqENpDbnVoB6CmCqDgCzBjCrEkC0BpCrDqC7CrCsDCuB4B0CmBhCnCtDsC8CtC9CuC+CvC/CwCgDxChDyCiDpBi",
   "CBjCjB2BEvBFwBgBjDYsEekDqB6BrBkCsB7BDlCAAiBsBuBxBkB3CtBmCdI6CtE0CIpElCqENpDboVoB6CmCqDgCzBjCr",
   "EkC0BpCrDqC7CrCsDCuB4B0CmBhCnCtDsC8CtC9CuC+CvC/CwCgDxChDyCiDpBiCBjCjB2BEvBFwBgBjDYsEekDqB6BrB",
   "kCsB7BDlCAAiBsBuBxBkB3CtBmCdI6CtE0CIpElCqENpDbpVoB6CmCqDgCzBjCrEkC0BpCrDqC7CrCsDCuB4B0CmBhCnC",
   "tDsC8CtC9CuC+CvC/CwCgDxChDyCiDpBiCBjCjB2BEvBFwBgBjDYsEekDqB6BrBkCsB7BDlCAAiBsBuBxBkB3CtBmCdI6",
   "CtEyCIqVlCrVNsVoB6CmCtVgCzBjCuVkC0BpCvVqC7CrCwVCuB4B0CmBhCnCxVsC8CtC9CuC+CvC/CwCgDxChDyCiDpBi",
   "CBjCjB2BEvBFwBgBzNYyVe0NqB6BrBkCsB7BDlCAAiBsBuBxBkB3CtBmCdI6CzVyCIpElCqENpDoB6CmCqDgCzBjCrEkC",
   "0BpCrDqC7CrCsDCuB4B0CmBhCnCtDsC8CtC9CuC+CvC/CwCgDxChDyCiDpBiCBjCjB2BEvBFwBgBjDYsEekDqB6BrBkCs",
   "B7BDlCAAiBsBuBxBkB3CtBmCdI6CtE0BIuE1BvElB0VNwE8HwIoBkBClBmBnCpBoCBkEjBiBEmBFnBgBoBYxEepBqB8Br",
   "BpCsBrBDqCAAiBhBuBqBkBrCtByEdI0BI0H1B1HlB1VNoG9HwIoB9FCuBmBhCpBiCBjCjB2BEvBFwBgBpGY+IeqGqB6Br",
   "BkCsB7BDlCAAiBsBuBxBkB3CtBmCdI0BIpL1BqLlB2VNoG+HwIoB9FCuBmBrLpBsLBjCjB2BEvBFwBgBpGYtLeqGqB/Ir",
   "BuLsBgJDvLAAiBsBuBxBkBwLtBxLdI0BIhJ1BiJlB3VNgFoBkBClBmB4E/HwIpB5EBzEjBiBEmBFnBgBoBYjJepBqBuFr",
   "B6EsBrBD7EAAiBhBuBqBkB8EtB2HdI0BIyL1BzLlB4VNgFoBkBClBmB0LgIwIpB1LBzEjBiBEmBFnBgBoBY2LepBqBkJr",
   "B3LsBlJD4LAAiBhBuBqBkB5LtB6LdIKvBrGwDsGK3FAA6B7LEjF8LAAEjF9LAAEjFiGAAGoGiGAA6B5VGoGrGAA6B1NEj",
   "FxIAAIvB+LwDmJAA6B/LIvBgMwDnJAA6BhMIvBiMwDoJAA6BjMIvBkMwDpJAA6BlMIvBmMwDqJAA6BnMIvBoMwDrJAA6B",
   "pMIvBqMwDsJAA6BrMIvBsMwDtJAA6BtM2BItG1BuGNgFP3HoBkBClBmBnCpBoCBzE8B6VjBiBEmBFnBgBoBYvGepBqB8B",
   "9BjErBpCsBrBDqCAAiBhBuBqBkBrCtBwGdI2BItG1BuGNgFP3HoBkBClBmBnCpBoCBzE8B7VjBiBEmBFnBgBoBYvGepBq",
   "B8B9BjErBpCsBrBDqCAAiBhBuBqBkBrCtBwGdI2BItG1BuGNgFP3HoBkBClBmBnCpBoCBzE8B8VjBiBEmBFnBgBoBYvGe",
   "pBqB8B9BjErBpCsBrBDqCAAiBhBuBqBkBrCtBwGdI2BItG1BuGNgFP3HoBkBClBmBnCpBoCBzE8B9VjBiBEmBFnBgBoBY",
   "vGepBqB8B9BjErBpCsBrBDqCAAiBhBuBqBkBrCtBwGdI2BItG1BuGNgFP3HoBkBClBmBnCpBoCBzE8B+VjBiBEmBFnBgB",
   "oBYvGepBqB8B9BjErBpCsBrBDqCAAiBhBuBqBkBrCtBwGdI2BItG1BuGNgFP3HoBkBClBmBnCpBoCBzE8B/VjBiBEmBFn",
   "BgBoBYvGepBqB8B9BjErBpCsBrBDqCAAiBhBuBqBkBrCtBwGdI2BI0HkF1HNoGoB9FgCzBjC2NkC0BCuBmBhCpBiCBjCj",
   "B2BEvBFwBgBjDYgWekDqB6BrBkCsB7BDlCAAiBsBuBxBkB3CtBmCdI2BI0HkF1HNoGoB9FgCzBjC2NkC0BCuBmBhCpBiC",
   "BjCjB2BEvBFwBgBzNYhWe0NqB6BrBkCsB7BDlCAAiBsBuBxBkB3CtBmCdI2BIjH1BkHN3GPxGoBkBClBmB4EpB5EB4G8B",
   "iWjBiBEmBFnBgBoBYlHepBqBuF9BvFrB6EsBrBD7EAAiBhBuBqBkB8EtBmHdI4BIjWkFkWN3NoBkBgClWjCmWkCnWClB4",
   "B0CmBnCpBoCB4NjBiBEmBFnBgBoBYoWepBqB8BrBpCsBrBDqCAAiBhBuBqBkBrCtBpWdI0BItG1BuGNgFlFqWoBkBClBm",
   "BnCpBoCBzEjBiBEmBFnBgBoBYvGepBqB8B9BjErBpCsBrBDqCAAiBhBuBqBkBrCtBwGdI2BIrW1BsWNtWPxGoBkBClBmB",
   "nCpBoCBuW8B5NjBiBEmBFnBgBoBYvWepBqB8B9BvFrBpCsBrBDqCAAiBhBuBqBkBrCtBwWdI2BIjH1BkHN3GPxGoBkBCl",
   "BmB4EpB5EB4G8B5NjBiBEmBFnBgBoBYlHepBqBuF9BvFrB6EsBrBD7EAAiBhBuBqBkB8EtBmHdI0BItG1BuGNgFoBkBCl",
   "BwB6NmBnCpBoCBzEjBiBEmBFnBgBoBYvGepBqB8B9BvFrBpCsBrBDqCAAiBhBuBqBkBrCtBwGdI0BIjH1BkHN3GlFxWoB",
   "kBClBmB4EpB5EB4GjBiBEmBFnBgBoBYlHepBqBuF9BvFrB6EsBrBD7EAAiBhBuBqBkB8EtBmHdI0BIjH1BkHN3GoBkBCl",
   "BwB6NmB4EpB5EB4GjBiBEmBFnBgBoBYlHepBqBuF9BvFrB6EsBrBD7EAAiBhBuBqBkB8EtBmHdI2BIuE1BvENwEPlEoBk",
   "BClBwByWmBnCpBoCBkEjBiBEmBFnBgBoBYxEepBqB8B9B5GrBpCsBrBDqCAAiBhBuBqBkBrCtByEdI0BIjH1BkHN3GoBk",
   "BClBwB7NmB4EpB5EB4GjBiBEmBFnBgBoBYlHepBqBuF9BvFrB6EsBrBD7EAAiBhBuBqBkB8EtBmHdI0BIuE1BvENwE0Fz",
   "WoBkBClBmBnCpBoCBkEjBiBEmBFnBgBoBYxEepBqB8B9B5GrBpCsBrBDqCAAiBhBuBqBkBrCtByEdI0BIjH1BkHN3GoBk",
   "BClBwB0WmB4EpB5EB4GjBiBEmBFnBgBoBYlHepBqBuF9BvFrB6EsBrBD7EAAiBhBuBqBkB8EtBmHdI2BIuE1BvENwEPlE",
   "oBkBClBwB1WmBnCpBoCBkEjBiBEmBFnBgBoBYxEepBqB8B9B5GrBpCsBrBDqCAAiBhBuBqBkBrCtByEdI2BIuE1BvENwE",
   "PlEoBkBClBwB2WmBnCpBoCBkEjBiBEmBFnBgBoBYxEepBqB8B9B5GrBpCsBrBDqCAAiBhBuBqBkBrCtByEdI0BIuE1BvE",
   "NwEb3WoBkBClBmBnCpBoCBkEjBiBEmBFnBgBoBYxEepBqB8B9B5GrBpCsBrBDqCAAiBhBuBqBkBrCtByEdIyBItG1BuGN",
   "gFoBkBClBmBnCpBoCBzEjBiBEmBFnBgBoBYvGepBqB8B9BvFrBpCsBrBDqCAAiBhBuBqBkBrCtBwGdIyBIjH1BkHN3GoB",
   "kBClBmB4EpB5EB4GjBiBEmBFnBgBoBYlHepBqBuF9BvFrB6EsBrBD7EAAiBhBuBqBkB8EtBmHdI0BIuE1BvENwEb4WoBk",
   "BClBmBnCpBoCBkEjBiBEmBFnBgBoBYxEepBqB8B9B5GrBpCsBrBDqCAAiBhBuBqBkBrCtByEdIyBI0H1B1HNoGoB9FCuB",
   "+B5WmBhCpBiCBjCjB2BEvBFwBgBpGY+IeqGqB6BrBkCsB7BDlCAAiBsBuBxBkB3CtBmCdIyBIuE1BvENwEoBkBClB4B0C",
   "mBnCpBoCBkEjBiBEmBFnBgBoBYxEepBqB8BrBpCsBrBDqCAAiBhBuBqBkBrCtByEdI2BI6WkF7WN3NoBkBgC8WjC9WkC+",
   "WClBmB4EpB5EB4NjBiBEmBFnBgBoBY/WepBqBuFrB6EsBrBD7EAAiBhBuBqBkB8EtBgXdIyBIuE1BvENwEoBkBClBwBhX",
   "mBnCpBoCBkEjBiBEmBFnBgBoBYxEepBqB8BrBpCsBrBDqCAAiBhBuBqBkBrCtByEdIyBIuE1BvENwEoBkBClBwBiXmBnC",
   "pBoCBkEjBiBEmBFnBgBoBYxEepBqB8BrBpCsBrBDqCAAiBhBuBqBkBrCtByEdIyBIuE1BvENwEoBkBClBwBjXmBnCpBoC",
   "BkEjBiBEmBFnBgBoBYxEepBqB8BrBpCsBrBDqCAAiBhBuBqBkBrCtByEdIyBIuE1BvENwEoBkBClBwBkXmBnCpBoCBkEj",
   "BiBEmBFnBgBoBYxEepBqB8BrBpCsBrBDqCAAiBhBuBqBkBrCtByEdIyBIuE1BvENwEoBkBClBwBlXmBnCpBoCBkEjBiBE",
   "mBFnBgBoBYxEepBqB8BrBpCsBrBDqCAAiBhBuBqBkBrCtByEdIyBIuE1BvENwEoBkBClBwBmXmBnCpBoCBkEjBiBEmBFn",
   "BgBoBYxEepBqB8BrBpCsBrBDqCAAiBhBuBqBkBrCtByEdIyBIuE1BvENwEoBkBClBwBnXmBnCpBoCBkEjBiBEmBFnBgBo",
   "BYxEepBqB8BrBpCsBrBDqCAAiBhBuBqBkBrCtByEdIyBIuE1BvENwEoBkBClBwBoXmBnCpBoCBkEjBiBEmBFnBgBoBYxE",
   "epBqB8BrBpCsBrBDqCAAiBhBuBqBkBrCtByEdIwBI0H1B1HNoGoB9FCuBmBhCpBiCBjCjB2BEvBFwBgBpGY+IeqGqB6Br",
   "BkCsB7BDlCAAiBsBuBxBkB3CtBmCdIyBIpX1BqXNoGoB9FCuBmB4EpB5EBjCjBiBG8NEvBFwBgBpGYrXeqGqB6BrB6EsB",
   "7BD7EAAiBsBuBxBkB8EtB9NdIwBI0H1B1HN+NoB9FCuBmBhCpBiCBjCjB2BEvBFwBgBpGY+IeqGqB6BrBkCsB7BDlCAAi",
   "BsBuBxBkB3CtBmCdIiBlByItDuJNzI1FabjGgCzB5D0BC4FyB0EKlFgB6GY7Ge8GfsChBbAAdIwBIuE1BvENwEoBkBClB",
   "mBnCpBoCBkEjBiBEmBFnBgBoBYxEepBqB8BrBpCsBrBDqCAAiBhBuBqBkBrCtByEdIwBIuE1BvENsXoBkBClBmBnCpBoC",
   "BkEjBiBEmBFnBgBoBYxEepBqB8BrBpCsBrBDqCAAiBhBuBqBkBrCtByEdIyBItX1BuXNwEoBkBClBmB4EpB5EBkEjBiBG",
   "uMEmBFnBgBoBYvXepBqB8BrB6EsBrBD7EAAiBhBuBqBkB8EtB2HdIiBlByItDuJNzI1FabkGgCzB5D0BC4FyB0EKlFgB6",
   "GY7Ge8GfsChBbAAdIwBIhJ1BiJN/NoBkBClBmB4EpB5EBzEjBiBEmBFnBgBoBYjJepBqBuFrB6EsBrBD7EAAiBhBuBqBk",
   "B8EtB2HdIyBIhJ1BiJNgFoBkBClBmB4EpB5EBzEjBiBGuMEmBFnBgBoBYjJepBqBuFrB6EsBrBD7EAAiBhBuBqBkB8EtB",
   "2HdIiBlByItDuJNzI1FablGgCzB5D0BC4FyB0EKlFgB6GY7Ge8GfsChBbAAdIwBIpL1BqLN+NoB9FCuBmBrLpBsLBjCjB",
   "2BEvBFwBgBpGYtLeqGqB/IrBuLsBgJDvLAAiBsBuBxBkBwLtBxLdIyBIwX1BxXNoGoB9FCuBmB4EpB5EBjCjBiBG8NEvB",
   "FwBgBpGYyXeqGqB/IrB6EsBgJD7EAAiBsBuBxBkB8EtB9NdIwBIyL1BzLN/NoBkBClBmB0LpB1LBzEjBiBEmBFnBgBoBY",
   "2LepBqBkJrB3LsBlJD4LAAiBhBuBqBkB5LtB6LdIyBIzX1B0XNgFoBkBClBmB4EpB5EBzEjBiBGuMEmBFnBgBoBY1XepB",
   "qBkJrB6EsBlJD7EAAiBhBuBqBkB8EtB2HdIwBI2X1B3XNgFoBkBClBmBnCpBoCBzEjBiBEmBFnBgBoBY4XepBqB8BrBpC",
   "sBrBDqCAAiBhBuBqBkBrCtB5XdIwBI6X1B7XN3GoBkBClBmB4EpB5EB4GjBiBEmBFnBgBoBY8XepBqBuFrB6EsBrBD7EA",
   "AiBhBuBqBkB8EtB9XdIwBIhJ1BiJNgFoBkBClBmB4EpB5EBzEjBiBEmBFnBgBoBYjJepBqBuFrB6EsBrBD7EAAiBhBuBq",
   "BkB8EtB2HdIwBIyL1BzLNgFoBkBClBmB0LpB1LBzEjBiBEmBFnBgBoBY2LepBqBkJrB3LsBlJD4LAAiBhBuBqBkB5LtB6",
   "LdIwBIpL1BqLNoGoB9FCuBmBrLpBsLBjCjB2BEvBFwBgBpGYtLeqGqB/IrBuLsBgJDvLAAiBsBuBxBkBwLtBxLdIelByI",
   "tDuJNzIpGagCzB5D0ByB0IKwFgB6GY7Ge8GfsChBbAAdIiBIvM2FwMlB4HoEabjGCxMyB0EKlFByGEGFHe1IfsChBbAAc",
   "tB2ByMiBIvM2FwMlB4HoEabkGCxMyB0EKlFByGEGFHe1IfsChBbAActB2ByMiBIvM2FwMlB4HoEablGCxMyB0EKlFByGE",
   "GFHe1IfsChBbAActB2ByMelByItD+XNzIpGagCzB5D0ByB2IKwFgB6GY7Ge8GfsChBbAAdIgB9CJlB4HoEabjGC4FyB0E",
   "KlFByGEGFHYxFfsChBbAActB2ByDaxBJpEabjGC4FyB0EKlFByGEGFHfsChBbAActBgB9CJlB4HoEabkGC4FyB0EKlFBy",
   "GEGFHYxFfsChBbAActB2ByDaxBJpEabkGC4FyB0EKlFByGEGFHfsChBbAActBgB9CJlB4HoEablGC4FyB0EKlFByGEGFH",
   "YxFfsChBbAActB2ByDaxBJpEablGC4FyB0EKlFByGEGFHfsChBbAActBSI5H7C6HqGaC/DKnHe5FfyFhBbAASI5H7C6Hq",
   "GaC/DKmFe5FfyFhBbAAUI7H7C8HgEaC/DyB0IKwFe1IfsChBbAAWIoHpEaN6FbjGC4FyB0EKlFB+FfsChBbAAUI5H7C6H",
   "uEa4CvJC/DKwJe5FfyFhBbAASI7H7C8HrGaC/DKwFexJfsChBbAAIvB/XhIgYsGgOAAGmFiGAA6BhYGmFrGAA6B7LUIyJ",
   "7CzJuEa4C0JC/DKhOe5FfzGhBbAASI7H7C8HrGaC/DKmFexJfsChBbAAUIyJ7CzJuEa4CiOC/DKmFe5FfzGhBbAAWIoHp",
   "EaN6FbkGC4FyB0EKlFB+FfsChBbAAWIoHpEaN6FblGC4FyB0EKlFB+FfsChBbAAUI7H7C8HgEaC/DyB2IKwFejOfsChBb",
   "AASIkO7ClOtGaC/DKmOexJf1JhBbAASIkO7ClOtGaC/DKmFexJf1JhBbAAEmFiGAAUI5H7C6HuEaqEnOC/DKnHe5FfyFh",
   "BbAAWI5H7C6HiIaC/DzC9HgD+HKnHe5FfyFhBbAAEmFxIAASI7H7C8HuGaC/DKwFe1IfsChBbAAGvBoOsGgOAAWI5H7C6",
   "HuEaP0JC/DKwJ8BvJe5FfyFhBbAASIyJ7CzJjIaC/DKmFe5FfzGhBbAASI7H7C8HuGaC/DKwFejOfsChBbAASIoHvGaN6",
   "FyB0IKwFB+FfsChBbAAEkIiYAAGlIpOwGjYAAGvB+LAA6B/LGmIkY+BlYAAExGmYAAGvBgMAA6BhMGvBiMAA6BjMGvBkM",
   "AA6BlMGvBmMAA6BnMGvBoMAA6BpMGvBqMAA6BrMGvBsMAA6BtMExGnYAAEvE8LAAEvE9LAAEvE2JAAEvEiGAAGvBrGAA6",
   "BoYEvExIAAGvBiGAA6BpYSIoHvGaN6FyB2IKwFB+FfsChBbAAWIyJ7CzJnIaC/DzC9HgD+HKmFe5FfzGhBbAASIqO7CrO",
   "yGaC/DKsOe5Ff3JhBbAASIqO7CrOyGaC/DKmFe5Ff3JhBbAAEvBqYAAEvBrYAAEvBsYAAEvBtYAAEvBuYAAEvBvYAAEvB",
   "wYAAEvBxYAAEvByYAAEvBzYAAEvB0YAAEvB1YAAEvB2YAAEvB3YAAEvB4YAAUItOoIaN6FzC9HgD+HKnHB+FfyFhBbAAE",
   "vB5YAAEvB6YAAEvBoOAAEvB7YAAEvB8YAAEvB9YAAEvB+YAAEvB/YAAEvBgZAAEvBhZAAEvBiZAAEvBjZAAEvBkZAAEvB",
   "lZAAEvBmZAAEvBnZAAEvBoZAAEvBpZAAEvBqZAAEvBrZAAEvBsZAAEvBtZAAEvBuZAAEvBvZAAEvBwZAAEvBxZAAEvByZ",
   "AAEvBzZAAEvB0ZAAEvB1ZAAEvB2ZAAEvB3ZAAEvB4ZAAEvB5ZAAEvB6ZAAEvB7ZAAEvB8ZAAEvB9ZAAQIoHpIaN6FKwFB",
   "+FfsChBbAAQgEjBbjGCzMyB0EK0MfpHhB1BAAEwEuOAAEwEvOAAEwEwOAAEwExOAAEwE2JAAQgEjBbkGCzMyB0EK0MfpH",
   "hB1BAAQgEjBblGCzMyB0EK0MfpHhB1BAAI0BjBK1EhB1BAAUIyOqIaN6FzC9HgD+HKmFB+ZfzGhBbAAKxDjBK7Ff/HhB1",
   "BAAKxDaKnHfyFhBbAAKxDaKmFfyFhBbAAKxDjBK1Ef/HhB1BAAIxDjBK7FhB1BAAMnFjByB0IKgIfpHhB1BAAMnFayB0I",
   "KwFfsChBbAAMoCa4CvJKwJfyFhBbAAMoCjB4ChIKqHf/HhB1BAAKhEaKwFfsChBbAAKhEjBKgIfpHhB1BAAExE2JAAExE",
   "uOAAExEvOAAExEwOAAExExOAAEyE/ZAAEyEgaAAEyEhaAAEyEiaAAMoCa4C0JKhOfzGhBbAAMoCjB4C0GK4Jf5JhB1BAA",
   "KhEaKmFfsChBbAAMoCa4CiOKmFfzGhBbAAMoCjB4C3IK1Ef5JhB1BAAEyE2JAAI5BjBK1EhB1BAAKhEjBK1EfpHhB1BAA",
   "MnFjByB2IKgIfpHhB1BAAMnFayB2IKwFfsChBbAAKiEaKmOf1JhBbAAKiEaKmFf1JhBbAAKiEjBK1EfzOhB1BAAKiEjBK",
   "6JfzOhB1BAAIhEjBKgIhB1BAAKoCjB4ChIKqHhB1BAAMoCaqEnOKnHfyFhBbAAMoCjBqE1MK7Ff/HhB1BAAOjEazC9HgD",
   "+HKnHfyFhBbAAOjEjBzCiIgD9GK7Ff/HhB1BAAKoCjB4C0GK4JhB1BAAKoCjB4C3IK1EhB1BAAIiEjBK6JhB1BAAKoCjB",
   "qE1MK7FhB1BAAMjEjBzCiIgD9GK7FhB1BAAOoCaP0JKwJ8BvJfyFhBbAAOoCjBP0GKqH8BhIf/HhB1BAAKzGaKmFfzGhB",
   "bAAKzGjBK1Ef5JhB1BAAMoCjBP0GKqH8BhIhB1BAAOoFazC9HgD+HKmFfzGhBbAAOoFjBzCiIgD9GK1Ef5JhB1BAAKkEa",
   "KsOf3JhBbAAKkEjBK7Jf0OhB1BAAKkEaKmFf3JhBbAAKkEjBK1Ef0OhB1BAAMoFjBzCiIgD9GK1EhB1BAAIkEjBK7JhB1",
   "BAAOrI8JCBBDGCH1OAAiBhBIsI8JCBAAiBhBI0BrGK3FAA6B2OMtIjIBDGCH1OAAiBhBGuIjIAAiBhBO0G3OCBBDGCHED",
   "FAAO0G4OCBBDGCHEDFAAMvI5OCBBDGCHEAAG0BrGAA6B2OG0BiGAA6BjaG0BjBK1EAAI3FsG4C2MK3FAAE0BmJAAE0BnJ",
   "AAE0BoJAAE0BpJAAE0BqJAAE0BrJAAE0BsJAAE0BtJAAE0BjBAAE0BjIAAI3FkI4C3MK+GAAE0B6OAAE0B7OAAE0B8OAA",
   "E0B9OAAE0B9JAAE0BrHAAI3FsH4C4MK/GAAE0B5MAAE0B+OAAE0B6MAAE0B+JAAE0B8LAAE0B/OAAE0BgPAAE0BhPAAGw",
   "I/JAApFiPE0BjPAAE0BtHAAE0B7MAAE0BkPAAE0BgKAAE0BhKAAE0BuHAAE0B8MAAE0B9MAAE0BlPAAE0BiKAAE0B9LAA",
   "E0BvHAAE0BmPAAE0BwHAAE0BxHAAE0BnPAAE0BoPAAE0B+MAAE0BjKAAE0BpPAAE0BqPAAE0B/MAAE0BkKAAE0BiGAAE0",
   "BlKAAE0BxIAAOxI8JCRBVGTHrPAAiBsBIyI8JCRAAiBsBGxDjBK7FAAoBLNnD4ICBQPBDGCHEVYXcOQSUTWUXMOJMRSZd",
   "DFAAaeoBLNnDlICBQPBDGCHEVYXcOQSUTWUXMOJMRSZdDFAAaeoBLNnDrHCBQPBDGCHEVYXcOQSUTWUXMOJMRSZdDFAAa",
   "eoBLNnD5ICBQPBDGCHEVYXcOQSUTWUXMOJMRSZdDFAAaeoBLNnDyHCBQPBDGCHEVYXcOQSUTWUXMOJMRSZdDFAAaeoBLN",
   "nDtHCBQPBDGCHEVYXcOQSUTWUXMOJMRSZdDFAAaeWLNzIgBCBBDGCHEOQMOJMDFAAQ0IgBCBBDGCHEJMDFAAgBLN1IgBC",
   "BQPBDGCHEOQSUTWUXMOJMRSDFAAiBLN2IgBCBQPBDGCHEVYOQSUTWUXMOJMRSDFAAULN3IgBCBBDGCHEMOJMDFAAaLN4I",
   "gBCBQPBDGCHEOQMOJMRSDFAAcLN5IgBCBQPBDGCHEOQSUMOJMRSDFAAeLN6IgBCBQPBDGCHEOQSUTWMOJMRSDFAASLN7I",
   "gBCBBDGCHEJMDFAAYLN8IgBCBQPBDGCHEOQMOJMDFAAkBLN9IgBCBQPBDGCHEVYXcOQSUTWUXMOJMRSDFAAoBLNnD6ICB",
   "QPBDGCHEVYXcOQSUTWUXMOJMRSZdDFAAaeoBLNnDuHCBQPBDGCHEVYXcOQSUTWUXMOJMRSZdDFAAaeoBLNnDvHCBQPBDG",
   "CHEVYXcOQSUTWUXMOJMRSZdDFAAaeoBLNnDwHCBQPBDGCHEVYXcOQSUTWUXMOJMRSZdDFAAaeoBLNnDxHCBQPBDGCHEVY",
   "XcOQSUTWUXMOJMRSZdDFAAaeoBLNnD7ICBQPBDGCHEVYXcOQSUTWUXMOJMRSZdDFAAaeGxDkIK+GAAGxDsHK/GAAGxDsG",
   "K3FAAM+IjIBVGTHrPAAiBsBG/IjIAAiBsBO1G3OCRBVGTHZDfAAG5BkIK+GAAE2GkKAAO1G4OCRBVGTHZDfAAMgJ5OCRB",
   "VGTHZAAG5BsHK/GAAE2GlKAAKyDsGzDrGK3FAA6B7LG5BsGK3FAAoBLNhJmKCBQPBDGCHEVYXcOQSUTWUXMOJMRSZdDFA",
   "AaeIiJrGK3FAA6B1NG5BjBK1EAAE5BjBAAGhEjBKgIAAE5BjIAAIoCjB4ChIKqHAAoBL5BoD4ICRQ9BBVGTHZVlDXuDOt",
   "CSzCT1CU4CM+BJ3BRwCZzDDfAAa0DE5B6OAAE5B7OAAE5B8OAAE5B9OAAE5B9JAAoBL5BoDlICRQ9BBVGTHZVlDXuDOtC",
   "SzCT1CU4CM+BJ3BRwCZzDDfAAa0DE5BrHAAoBL5BoDrHCRQ9BBVGTHZVlDXuDOtCSzCT1CU4CM+BJ3BRwCZzDDfAAa0DE",
   "5B5MAAE5B+OAAoBL5BoD5ICRQ9BBVGTHZVlDXuDOtCSzCT1CU4CM+BJ3BRwCZzDDfAAa0DE5B6MAAE5B+JAAE5B/OAAE5",
   "BgPAAE5BhPAAGhE/JAApFsPE5BjPAAoBL5BoDyHCRQ9BBVGTHZVlDXuDOtCSzCT1CU4CM+BJ3BRwCZzDDfAAa0DE5BtHA",
   "AoBL5BoDtHCRQ9BBVGTHZVlDXuDOtCSzCT1CU4CM+BJ3BRwCZzDDfAAa0DWL5BjJgBCRBVGTHZOtCM+BJ3BDfAAE5B7MA",
   "AQkJgBCRBVGTHZJ3BDfAAgBL5BlJgBCRQ9BBVGTHZOtCSzCT1CU4CM+BJ3BRwCDfAAiBL5BmJgBCRQ9BBVGTHZVlDOtCS",
   "zCT1CU4CM+BJ3BRwCDfAAUL5BnJgBCRBVGTHZM+BJ3BDfAAaL5BoJgBCRQ9BBVGTHZOtCM+BJ3BRwCDfAAcL5BpJgBCRQ",
   "9BBVGTHZOtCSzCM+BJ3BRwCDfAAeL5BqJgBCRQ9BBVGTHZOtCSzCT1CM+BJ3BRwCDfAASL5BrJgBCRBVGTHZJ3BDfAAYL",
   "5BsJgBCRQ9BBVGTHZOtCM+BJ3BDfAAkBL5BtJgBCRQ9BBVGTHZVlDXuDOtCSzCT1CU4CM+BJ3BRwCDfAAE5BkPAAE5BgK",
   "AAE5BhKAAoBL5BoD6ICRQ9BBVGTHZVlDXuDOtCSzCT1CU4CM+BJ3BRwCZzDDfAAa0DE5BuHAAoBL5BoDuHCRQ9BBVGTHZ",
   "VlDXuDOtCSzCT1CU4CM+BJ3BRwCZzDDfAAa0DE5B8MAAE5B9MAAE5BlPAAE5BiKAAE5BvHAAoBL5BoDvHCRQ9BBVGTHZV",
   "lDXuDOtCSzCT1CU4CM+BJ3BRwCZzDDfAAa0DE5BmPAAE5BwHAAoBL5BoDwHCRQ9BBVGTHZVlDXuDOtCSzCT1CU4CM+BJ3",
   "BRwCZzDDfAAa0DE5BxHAAoBL5BoDxHCRQ9BBVGTHZVlDXuDOtCSzCT1CU4CM+BJ3BRwCZzDDfAAa0DE5BnPAAE5BoPAAE",
   "5B+MAAE5BjKAAE5BpPAAE5BqPAAE5B/MAAoBL5BoD7ICRQ9BBVGTHZVlDXuDOtCSzCT1CU4CM+BJ3BRwCZzDDfAAa0DIo",
   "CjB4C0GK4JAAIoCjB4C3IK1EAAIyDmJzD+LAA6B/LE5BmJAAIyDnJzDgMAA6BhMIyDoJzDiMAA6BjMIyDpJzDkMAA6BlM",
   "E5BnJAAE5BoJAAE5BpJAAIyDqJzDmMAA6BnMIyDrJzDoMAA6BpMIyDsJzDqMAA6BrME5BqJAAE5BrJAAE5BsJAAIyDtJz",
   "DsMAA6BtME5BtJAAGiE/JAApFsPGoCkIqF+GAAGoCsHqF/GAAGoCsGqF3FAAoBLvDpDlICRQ5DBVGTHZVnFXrFO6DS2ET",
   "9EUhFM1DJmDRmEZzFDfAAa0FoBLvDpDrHCRQ5DBVGTHZVnFXrFO6DS2ET9EUhFM1DJmDRmEZzFDfAAa0FoBLvDpD5ICRQ",
   "5DBVGTHZVnFXrFO6DS2ET9EUhFM1DJmDRmEZzFDfAAa0FoBLvDpDyHCRQ5DBVGTHZVnFXrFO6DS2ET9EUhFM1DJmDRmEZ",
   "zFDfAAa0FoBLvDpDtHCRQ5DBVGTHZVnFXrFO6DS2ET9EUhFM1DJmDRmEZzFDfAAa0FWLvDuJgBCRBVGTHZO6DM1DJmDDf",
   "AAQvJgBCRBVGTHZJmDDfAAgBLvDwJgBCRQ5DBVGTHZO6DS2ET9EUhFM1DJmDRmEDfAAiBLvDxJgBCRQ5DBVGTHZVnFO6D",
   "S2ET9EUhFM1DJmDRmEDfAAULvDyJgBCRBVGTHZM1DJmDDfAAaLvDzJgBCRQ5DBVGTHZO6DM1DJmDRmEDfAAcLvD0JgBCR",
   "Q5DBVGTHZO6DS2EM1DJmDRmEDfAAeLvD1JgBCRQ5DBVGTHZO6DS2ET9EM1DJmDRmEDfAASLvD2JgBCRBVGTHZJmDDfAAY",
   "LvD3JgBCRQ5DBVGTHZO6DM1DJmDDfAAkBLvD4JgBCRQ5DBVGTHZVnFXrFO6DS2ET9EUhFM1DJmDRmEDfAAoBLvDpD6ICR",
   "Q5DBVGTHZVnFXrFO6DS2ET9EUhFM1DJmDRmEZzFDfAAa0FoBLvDpDuHCRQ5DBVGTHZVnFXrFO6DS2ET9EUhFM1DJmDRmE",
   "ZzFDfAAa0FoBLvDpDvHCRQ5DBVGTHZVnFXrFO6DS2ET9EUhFM1DJmDRmEZzFDfAAa0FoBLvDpDwHCRQ5DBVGTHZVnFXrF",
   "O6DS2ET9EUhFM1DJmDRmEZzFDfAAa0FoBLvDpDxHCRQ5DBVGTHZVnFXrFO6DS2ET9EUhFM1DJmDRmEZzFDfAAa0FoBLvD",
   "pD7ICRQ5DBVGTHZVnFXrFO6DS2ET9EUhFM1DJmDRmEZzFDfAAa0FGiEjBK6JAAoBLvDpD4ICRQ5DBVGTHZVnFXrFO6DS2",
   "ET9EUhFM1DJmDRmEZzFDfAAa0FqBL5BPnKCR+BtPQ9BBVGTHZVlDXuDOtCSzCT1CU4CM+BJ3BRwCZzDDfAAa0DIgEjBCk",
   "ayBuPAAqBL5BPnKCR+BvPQ9BBVGTHZVlDXuDOtCSzCT1CU4CM+BJ3BRwCZzDDfAAa0DqBL5BPnKCR+BwPQ9BBVGTHZVlD",
   "XuDOtCSzCT1CU4CM+BJ3BRwCZzDDfAAa0DIoCjBqE1MK7FAAoBLN4ClaCBQPBDGCHEVYXcOQSUTWUXMOJMRSZdDFAAaeK",
   "jEjBzCiIgD9GK7FAAsBL5BPmabgNCR+BlIQ9BBVGTHZVlDXuDOtCSzCT1CU4CM+BJ3BRwCZzDDfAAa0DIgE6MCnayBhNA",
   "AsBL5BPoabgNCR+ByHQ9BBVGTHZVlDXuDOtCSzCT1CU4CM+BJ3BRwCZzDDfAAa0DsBL5BPpabxPCR+ByHQ9BBVGTHZVlD",
   "XuDOtCSzCT1CU4CM+BJ3BRwCZzDDfAAa0DoBLN4CqaCBQPBDGCHEVYXcOQSUTWUXMOJMRSZdDFAAaeqBLvD5JiNCRzCra",
   "BV3G5DGTHZVnFXrFO6DS2ET9EUhFM1DJmDRmEZzFDfAAa0FIjEkIzC3M4F+GAAIjEsHzC4M4F/GAAIjEsGzC2M4F3FAAq",
   "BLNP4BCBwByPQPBDGCHEVYXcOQSUTWUXMOJMRSZdDFAAaeqBLNPlECBQPBD8BzPGCHEVYXcOQSUTWUXMOJMRSZdDFAAae",
   "qBLNPlECBQPBD8BsaGCHEVYXcOQSUTWUXMOJMRSZdDFAAaeqBLNP4BCB4B0PQPBDGCHEVYXcOQSUTWUXMOJMRSZdDFAAa",
   "eoBLN0FjNCBQPBDGCHEVYXcOQSUTWUXMOJMRSZdDFAAaeqBLNP4Bb1PCBQPBDGCHEVYXcOQSUTWUXMOJMRSZdDFAAaeqB",
   "LNPlECBwB2PQPBDGCHEVYXcOQSUTWUXMOJMRSZdDFAAaeoBL5BlEmKCRQ9BBVGTHZVlDXuDOtCSzCT1CU4CM+BJ3BRwCZ",
   "zDDfAAa0DqBLNP4BCBQPBD8B3PGCHEVYXcOQSUTWUXMOJMRSZdDFAAaeqBLNP4Bb4PCBQPBDGCHEVYXcOQSUTWUXMOJMR",
   "SZdDFAAaeoBL5BlEiNCRQ9BBVGTHZVlDXuDOtCSzCT1CU4CM+BJ3BRwCZzDDfAAa0DqBLNP4BCB4B5PQPBDGCHEVYXcOQ",
   "SUTWUXMOJMRSZdDFAAaeqBLNP4BCBQPBD8B6PGCHEVYXcOQSUTWUXMOJMRSZdDFAAaeqBLNP4BCBQPyB7PBDGCHEVYXcO",
   "QSUTWUXMOJMRSZdDFAAaeqBLNP4BCBwB8PQPBDGCHEVYXcOQSUTWUXMOJMRSZdDFAAaeqBLNP4BCBwB9PQPBDGCHEVYXc",
   "OQSUTWUXMOJMRSZdDFAAaeqBLNP4BCBwB+PQPBDGCHEVYXcOQSUTWUXMOJMRSZdDFAAaeqBLNP4BCB4B/PQPBDGCHEVYX",
   "cOQSUTWUXMOJMRSZdDFAAaeqBLNP4BCBwBgQQPBDGCHEVYXcOQSUTWUXMOJMRSZdDFAAaeqBLNP4BCBwBhQQPBDGCHEVY",
   "XcOQSUTWUXMOJMRSZdDFAAaeqBLNP4BCBwBiQQPBDGCHEVYXcOQSUTWUXMOJMRSZdDFAAaeqBLNP4BCBwBtaQPBDGCHEV",
   "YXcOQSUTWUXMOJMRSZdDFAAaeqBLNP4BCBwBuaQPBDGCHEVYXcOQSUTWUXMOJMRSZdDFAAaeqBLNP4BCBwBjQQPBDGCHE",
   "VYXcOQSUTWUXMOJMRSZdDFAAaeqBLNP4BCBwBkQQPBDGCHEVYXcOQSUTWUXMOJMRSZdDFAAaeKoCjBP0GKqH8BhIAAIoC",
   "kI5F+G8B3MAAIoCsH5F/G8B4MAAIoCsG5F3F8B2MAAqBLNP4BCBwBlQQPBDGCHEVYXcOQSUTWUXMOJMRSZdDFAAaeqBLN",
   "PlECBQPBD8BmQGCHEVYXcOQSUTWUXMOJMRSZdDFAAaeqBLNPlECBwBnQQPBDGCHEVYXcOQSUTWUXMOJMRSZdDFAAaeqBL",
   "NP4BCBQPBD8BoQGCHEVYXcOQSUTWUXMOJMRSZdDFAAaeqBLNP4BbpQCBQPBDGCHEVYXcOQSUTWUXMOJMRSZdDFAAaeqBL",
   "NP4BCBQPBD8BqQGCHEVYXcOQSUTWUXMOJMRSZdDFAAaeoBLuCqDlICBQxCBDGCHEV2DX7DOyCS5CTnDUwDMvCJ/BR2CZg",
   "EDFAAahEoBLuCqDrHCBQxCBDGCHEV2DX7DOyCS5CTnDUwDMvCJ/BR2CZgEDFAAahEoBLuCqD5ICBQxCBDGCHEV2DX7DOy",
   "CS5CTnDUwDMvCJ/BR2CZgEDFAAahEoBLuCqDyHCBQxCBDGCHEV2DX7DOyCS5CTnDUwDMvCJ/BR2CZgEDFAAahEoBLuCqD",
   "tHCBQxCBDGCHEV2DX7DOyCS5CTnDUwDMvCJ/BR2CZgEDFAAahEWLuC6JgBCBBDGCHEOyCMvCJ/BDFAAQ7JgBCBBDGCHEJ",
   "/BDFAAgBLuC8JgBCBQxCBDGCHEOyCS5CTnDUwDMvCJ/BR2CDFAAiBLuC9JgBCBQxCBDGCHEV2DOyCS5CTnDUwDMvCJ/BR",
   "2CDFAAULuC+JgBCBBDGCHEMvCJ/BDFAAaLuC/JgBCBQxCBDGCHEOyCMvCJ/BR2CDFAAcLuCgKgBCBQxCBDGCHEOyCS5CM",
   "vCJ/BR2CDFAAeLuChKgBCBQxCBDGCHEOyCS5CTnDMvCJ/BR2CDFAASLuCiKgBCBBDGCHEJ/BDFAAYLuCjKgBCBQxCBDGC",
   "HEOyCMvCJ/BDFAAkBLuCkKgBCBQxCBDGCHEV2DX7DOyCS5CTnDUwDMvCJ/BR2CDFAAoBLuCqD6ICBQxCBDGCHEV2DX7DO",
   "yCS5CTnDUwDMvCJ/BR2CZgEDFAAahEoBLuCqDuHCBQxCBDGCHEV2DX7DOyCS5CTnDUwDMvCJ/BR2CZgEDFAAahEoBLuCq",
   "DvHCBQxCBDGCHEV2DX7DOyCS5CTnDUwDMvCJ/BR2CZgEDFAAahEoBLuCqDwHCBQxCBDGCHEV2DX7DOyCS5CTnDUwDMvCJ",
   "/BR2CZgEDFAAahEoBLuCqDxHCBQxCBDGCHEV2DX7DOyCS5CTnDUwDMvCJ/BR2CZgEDFAAahEoBLuCqD7ICBQxCBDGCHEV",
   "2DX7DOyCS5CTnDUwDMvCJ/BR2CZgEDFAAahEqBLNP4BCBwBrQQPBDGCHEVYXcOQSUTWUXMOJMRSZdDFAAaeqBLNPlECBw",
   "BsQQPBDGCHEVYXcOQSUTWUXMOJMRSZdDFAAaeqBLNP4BCBwBtQQPBDGCHEVYXcOQSUTWUXMOJMRSZdDFAAaeqBLNP4BCB",
   "wBuQQPBDGCHEVYXcOQSUTWUXMOJMRSZdDFAAaeqBLNP4BCBwBvQQPBDGCHEVYXcOQSUTWUXMOJMRSZdDFAAaeqBLNP4BC",
   "BwBwQQPBDGCHEVYXcOQSUTWUXMOJMRSZdDFAAaeqBLNP4BCBwBxQQPBDGCHEVYXcOQSUTWUXMOJMRSZdDFAAaeoBLuCqD",
   "4ICBQxCBDGCHEV2DX7DOyCS5CTnDUwDMvCJ/BR2CZgEDFAAahEqBLNP4BCB4ByQQPBDGCHEVYXcOQSUTWUXMOJMRSZdDF",
   "AAaeqBLNP4BCB4BzQQPBDGCHEVYXcOQSUTWUXMOJMRSZdDFAAaeqBLNP4BCB4B0QQPBDGCHEVYXcOQSUTWUXMOJMRSZdD",
   "FAAaegB/CvalBpFN8FPyBbwaBmGEGFHYxa9BjEAAczHdI1Cya2CqF2BzaoBL5BCR+B0aQ9BBVGTHZVlDXuDOtCSzCT1CU",
   "4CM+BJ3BRwCZzDDfAAa0DoBLN0C1aCBQPBDGCHEVYXcOQSUTWUXMOJMRSZdDFAAaeqBL5BCR4B2aQ9BBVGTHZVlDXuDOt",
   "CSzCT1CU4CM+BJ3BRwCZzDDfAA6B3aa0DoBLN0CgNCBQPBDGCHEVYXcOQSUTWUXMOJMRSZdDFAAaeoBLN0CxPCBQPBDGC",
   "HEVYXcOQSUTWUXMOJMRSZdDFAAaeGkE/JAApFiPgB/C4alBpFN8FPyBb5aBmGEGFHY6a9BjEAAczHdI1C7a2CqF2B8agB",
   "/C9alBpFN8FPyBb+aBmGEGFHY/a9BjEAAczHdI1Cgb2CqF2BhbgB/CiblBpFN8FPyBbjbBmGEGFHYkb9BjEAAczHdI1Cl",
   "b2CqF2BmbgB/CnblBpFN8FPyBbobBmGEGFHYpb9BjEAAczHdI1Cqb2CqF2BrbgB/CsblBpFN8FPyBbtbBmGEGFHYub9Bj",
   "EAAczHdI1Cvb2CqF2BwbKoFjBzCiIgD9GK1EAAoBLxDCBQ8DrDlIBDGCHEVoFXsFO9DS3ET+EUiFM3DJoDRnEZ1FDFAAa",
   "2FoBLxDCBQ8DrDrHBDGCHEVoFXsFO9DS3ET+EUiFM3DJoDRnEZ1FDFAAa2FoBLxDCBQ8DrD5IBDGCHEVoFXsFO9DS3ET+",
   "EUiFM3DJoDRnEZ1FDFAAa2FoBLxDCBQ8DrDyHBDGCHEVoFXsFO9DS3ET+EUiFM3DJoDRnEZ1FDFAAa2FoBLxDCBQ8DrDt",
   "HBDGCHEVoFXsFO9DS3ET+EUiFM3DJoDRnEZ1FDFAAa2FWLxDCBlKgBBDGCHEO9DM3DJoDDFAAQmKgBCBBDGCHEJoDDFAA",
   "gBLxDCBQ8DnKgBBDGCHEO9DS3ET+EUiFM3DJoDRnEDFAAiBLxDCBQ8DoKgBBDGCHEVoFO9DS3ET+EUiFM3DJoDRnEDFAA",
   "ULxDCBpKgBBDGCHEM3DJoDDFAAaLxDCBQ8DqKgBBDGCHEO9DM3DJoDRnEDFAAcLxDCBQ8DrKgBBDGCHEO9DS3EM3DJoDR",
   "nEDFAAeLxDCBQ8DsKgBBDGCHEO9DS3ET+EM3DJoDRnEDFAASLxDCBtKgBBDGCHEJoDDFAAYLxDCBQ8DuKgBBDGCHEO9DM",
   "3DJoDDFAAkBLxDCBQ8DvKgBBDGCHEVoFXsFO9DS3ET+EUiFM3DJoDRnEDFAAoBLxDCBQ8DrD6IBDGCHEVoFXsFO9DS3ET",
   "+EUiFM3DJoDRnEZ1FDFAAa2FoBLxDCBQ8DrDuHBDGCHEVoFXsFO9DS3ET+EUiFM3DJoDRnEZ1FDFAAa2FoBLxDCBQ8DrD",
   "vHBDGCHEVoFXsFO9DS3ET+EUiFM3DJoDRnEZ1FDFAAa2FoBLxDCBQ8DrDwHBDGCHEVoFXsFO9DS3ET+EUiFM3DJoDRnEZ",
   "1FDFAAa2FoBLxDCBQ8DrDxHBDGCHEVoFXsFO9DS3ET+EUiFM3DJoDRnEZ1FDFAAa2FoBLxDCBQ8DrD7IBDGCHEVoFXsFO",
   "9DS3ET+EUiFM3DJoDRnEZ1FDFAAa2FGkEjBK7JAAoBLxDCBQ8DrD4IBDGCHEVoFXsFO9DS3ET+EUiFM3DJoDRnEZ1FDFA",
   "Aa2FoBLuCNxbCBQxCBDGCHEV2DX7DOyCS5CTnDUwDMvCJ/BR2CZgEDFAAahEoBLuCCBQxCyBybBDGCHEV2DX7DOyCS5CT",
   "nDUwDMvCJ/BR2CZgEDFAAahEoBLNCBQPBD8BzbGCHEVYXcOQSUTWUXMOJMRSZdDFAAaeqBLxDCBzC0bgDiNBD3G8DGCHE",
   "VoFXsFO9DS3ET+EUiFM3DJoDRnEZ1FDFAAa2FoBLuCCBQxCyB1bBDGCHEV2DX7DOyCS5CTnDUwDMvCJ/BR2CZgEDFAAah",
   "EoBLNCBQPBD8B2bGCHEVYXcOQSUTWUXMOJMRSZdDFAAaeoBLuCCBQxCyB3bBDGCHEV2DX7DOyCS5CTnDUwDMvCJ/BR2CZ",
   "gEDFAAahEoBLuCCBQxCyB4bBDGCHEV2DX7DOyCS5CTnDUwDMvCJ/BR2CZgEDFAAahEoBLuCCBQxCyB5bBDGCHEV2DX7DO",
   "yCS5CTnDUwDMvCJ/BR2CZgEDFAAahEe/C6blBpFN8F0C7bBmGEGFHY8b9BjEAAczHdI1C9b2CqF2B+bmBLuCCRQxCBVGT",
   "HZV2DX7DOyCS5CTnDUwDMvCJ/BR2CZgEDFAAahEmBLuCCBQxCBDGCHEV2DX7DOyCS5CTnDUwDMvCJ/BR2CZgEDFAAahEe",
   "/C/blBpFPtFbgcBKEGFHYhc9B5GAAc1QdI1Cic2CqF2BjcUxBkcN8FPnGblcBmGEGFH9BvFAAckNc/C1GlBmIbmc4BncB",
   "2GE/FFgGYnIAAcoIdI1CpI2CqI2BrIc/CoclBpF0CpcBKEGFHYqc9B5GAAc1QdI1Crc2CqF2Bscc/C1GlBmIbtc4BlNB2",
   "GE/FFgGYnIAAcoIdI1CpI2CqI2BrIc/CuclBvcb2Q4BwcBxcEycFzcY0cAAc1cd2c1C3c2C4c2B5cUxB6cN8FPnGb7cBm",
   "GEGFH9BvFAAckNc/C1GlBmIb8c4B9cB2GE/FFgGYnIAAcoIdI1CpI2CqI2BrIc/C1GlBmIb+c4BlNB2GE/FFgGYnIAAco",
   "IdI1CpI2CqI2BrIc/C1GlBmIb/c4BgdB2GE/FFgGYnIAAcoIdI1CpI2CqI2BrIc/C1GlBmIbhd4BlNB2GE/FFgGYnIAAc",
   "oIdI1CpI2CqI2BrISxBidN8F0CjdBmGEGFH9BvFAAckNY+CJlBoEPyBblG/BLKgCBKEGFHAActB2ByDa9CJlBoEPyBblG",
   "/BLKgCBKEGFHYxFAActB2ByDY+CJlBoEPyBbjG/BLKgCBKEGFHAActB2ByDa9CJlBoEPyBbjG/BLKgCBKEGFHYxFAActB",
   "2ByDY+CJlBoEPyBbkG/BLKgCBKEGFHAActB2ByDa9CJlBoEPyBbkG/BLKgCBKEGFHYxFAActB2ByDY+CJlBoEPyBboK/B",
   "LKgCBKEGFHAActB2ByDa9CJlBoEPyBboK/BLKgCBKEGFHYxFAActB2ByDY+CJlBoEPyBbpK/BLKgCBKEGFHAActB2ByDa",
   "9CJlBoEPyBbpK/BLKgCBKEGFHYxFAActB2ByDY+CJlBoEPyBbqK/BLKgCBKEGFHAActB2ByDa9CJlBoEPyBbqK/BLKgCB",
   "KEGFHYxFAActB2ByDUxBJPyBblG/BLKgCBKEGFHAActBY9C1GlBmNN3QwKLB2GE/FFgGYkdAAcld2Bmd6BndUxBJPyBbj",
   "G/BLKgCBKEGFHAActBUxBJPyBbkG/BLKgCBKEGFHAActBUxBJPyBboK/BLKgCBKEGFHAActBUxBJPyBbpK/BLKgCBKEGF",
   "HAActBUxBJPyBbqK/BLKgCBKEGFHAActBexKJlCodlB4QBKEGFHgBnNY5QAAc6QdI1C7Q2C8QkD9QlD+QW+CJlBoE0CrK",
   "/BLKgCBKEGFHAActB2ByDY9CJlBoE0CrK/BLKgCBKEGFHYxFAActB2ByDW+CJlBoEPtFbsK/BLBKEGFHAActB2ByDY9CJ",
   "lBoEPtFbsK/BLBKEGFHYxFAActB2ByDSxBJ0CrK/BLKgCBKEGFHAActBa/CJlB4QBKEGFHY5QAAc6QdI1C7Q2C8QkD9Ql",
   "D+QS+CJlBmNmDLBKEGFHAActK2B/Qa/C1GlBpdB2GE/FFgGYqdAAcrddI1Csd2CtdkDudlDvdU+CJlBoE0CuK/BLBKEGF",
   "HAActB2ByDW9CJlBoE0CuK/BLBKEGFHYxFAActB2ByDW9C1GlBwdmDLB2GE/FFgGYxdAAcydkDzdlD0dSxBJPtFbsK/BL",
   "BKEGFHAActBS+CJlBgRmDLBKEGFHAAc8I2BhRU+CJlB1dmDLBKEGFHAAc2dkD3dlD4dU+CJlB5dmDLBKEGFHAAc6dkD7d",
   "lD8dImEiRC9dG+dAAOxBJmDLBKEGFHAActKQxBJ0CuK/BLBKEGFHAActBOxBJmDLBKEGFHAAc8IOxBJmDLBKEGFHAAc/d",
   "OxBJmDLBKEGFHAAcgeOxBJmDLBKEGFHAAcheOxBJmDLBKEGFHAAcieGyKjeAAdkeEzEleAAEzKmeAAEzEneAAEzEoeAAE",
   "zEpeAAEzEqeAAG6DiGAA6BreG6DrGAA6BseQxBJCLBKEGFHfoNAAcvKS+CJlBteCLBKEGFHAAcvK2BueStDjRgCzB5D0B",
   "CLgB6GY7Ge8GAAdIU+CJlBveCLBKEGFHAAcwekDxelDyeW9CJlBzeCLBKEGFHY0eAAc1ekD2elD3eE6DkRAAG0KkR4B4e",
   "AAU+CJlB5eCLBKEGFHAAc6ekD7elD8eU+CJlB9eCLBKEGFHAAc+ekD/elDgfE6DhfAAE6D2QAAE6DifAAE6DiGAAE6DxI",
   "AAS+CJlBgRCLBKEGFHAAc8I2BhRU+CJlBjfCLBKEGFHAAckfkDlflDmfEmEnfAAS9CJlBoEBKEGFHYxFAActB2ByDEmEi",
   "RAAQtDjRgCzB5D0BgB6GY7Ge8GAAdIOxBJCLBKEGFHAAcvKU9CJlBofBKEGFHYpfAAcqfkDrflDsfOxBJCLBKEGFHAAct",
   "fOxBJCLBKEGFHAAcufEmEvfAAOxBJCLBKEGFHAAclROxBJCLBKEGFHAAcwfOxBJCLBKEGFHAAcxfOxBJCLBKEGFHAAcyf",
   "OxBJCLBKEGFHAAczfOxBJCLBKEGFHAAc0fOxBJCLBKEGFHAAc1fOxBJCLBKEGFHAAc2fOxBJCLBKEGFHAAc3fOxBJCLBK",
   "EGFHAAc4fOxBJCLBKEGFHAAc5fEmE7MAAEmE+MAAEmE/MAAS9CJlBmNBKEGFHY6fAActK2B/QQtD7fgCzB5D0BgB6GY7G",
   "e8GAAdIOxBJCLBKEGFHAAc8IU9CJlB8fBKEGFHY9fAAc+fkD/flDggBOxBJCLBKEGFHAAcmROxBJCLBKEGFHAAchgBOxB",
   "JCLBKEGFHAAcigBOxBJCLBKEGFHAAcjgBOxBJCLBKEGFHAAckgBOxBJCLBKEGFHAAclgBOxBJCLBKEGFHAAcmgBOxBJCL",
   "BKEGFHAAcngBOxBJCLBKEGFHAAcogBEhBpgBAAMxBJBKEGFHAActBMxBJBKEGFHAAcvKMxBJBKEGFHAAcqgBMxBJBKEGF",
   "HAAclRMxBJBKEGFHAAcrgBMxBJBKEGFHAAcsgBMxBJBKEGFHAActgBMxBJBKEGFHAAcugBMxBJBKEGFHAAcvgBEhBwgBA",
   "AEhBxgBAAEhBygBAAMxBJBKEGFHAActKMxBJBKEGFHAAc8IMxBJBKEGFHAAczgBMxBJBKEGFHAAcmRMxBJBKEGFHAAc0g",
   "BMxBJBKEGFHAAc1gBMxBJBKEGFHAAc2gBMxBJBKEGFHAAc3gBMxBJBKEGFHAAc4gBEhB5gBAAQI6gBlBnRNoR6FpNGpRE",
   "/FFgGAAKNgH0D7gBjBhH1DqRAAO5CiEN+DyB/E7BjFGkF8CwKAAKNgH0DxKjBhH1DqRAAKNgH0D8gBjBhH1DrRAAO5CiE",
   "N+DyB/E7BjFGkF8CyKAAKNgH0DxKjBhH1DrRAAKNgH0D9gBjBhH1DsRAAO5CiEN+DyB/E7BjFGkF8CzKAAKNgH0DxKjBh",
   "H1DsRAAKNgH0D+gBjBhH1DtRAAO5CiEN+DyB/E7BjFGkF8C0KAAKNgH0DxKjBhH1DtRAAM5CiEN+DyB/E7BjF8CwKAAM5",
   "CiEN+D7BjFGkF8CwKAAKN/gB0DghBjBhhB1DihBAAM5CiEN+DyB/E7BjF8CyKAAM5CiEN+D7BjFGkF8CyKAAM5CiEN+Dy",
   "B/E7BjF8CzKAAM5CiEN+D7BjFGkF8CzKAAM5CiEN+DyB/E7BjF8C0KAAM5CiEN+D7BjFGkF8C0KAAK5CiEN+D7BjF8CwK",
   "AAK5CiEN+D7B1K8CjhBAAKN+DjBkhBElhBFmhBAAI5CnhBNohB1KphBAAK5CiEN+D7BjF8CyKAAK5CiEN+D7B1K8CqhBA",
   "AK5CiEN+D7BjF8CzKAAK5CiEN+D7B1K8CrhBAAK5CiEN+D7BjF8C0KAAK5CiEN+D7B1K8CshBAAMI2KPthBbuhBEGFHAA",
   "MI3KPvhBbwhBEGFHAAIIoHN6FB+FAAE0EuRAAIIxhBN6FB+FAAIItON6FB+FAAKPyBblG/BLKgCAAE0EvRAAIhDyhByB/",
   "EKzhBAAKI2KbwREGFHAAE0ExRAAE0EyRAAKI3KbzREGFHAAIlEqNnE4KK0hBAAK2KqNnE4KK9IAA6B1hBE0E0RAAKI2Kb",
   "2hBEGFHAAKI3Kb3hBEGFHAAGP4B4G1RAAKPyBbjG/BLKgCAAGP4hB4GmKAAKPyBbkG/BLKgCAAKPyBboK/BLKgCAAKPyB",
   "bpK/BLKgCAAKPyBbqK/BLKgCAAI1E5hBAAiB6hB2E5KI1E2RAAiB7hB2E5KE7D3FAAE7D+GAAItD3Rb8hB7F4RAAGhD9h",
   "BK+hBAAIC4D+B/hBK9IAAI1EgiBAAiBhiB2EiiBE7D/GAAItD3RbjiB7F4RAAIIkiBN8FB5RAAIIyON6FB+FAAIIliBN8",
   "FB5RAAE3KmiBAAE4KniBAAIC4D+BoiBK9IAAItDpiBbqiB7FriBAAIC4D+BsiBK9IAAII2KEGFHAAII3KEGFHAAE7DuRA",
   "AE7DvRAAE7DxRAAE7DyRAAE7D0RAAE5GkKAAE5GlKAAI1EtiBAAiBuiB2E5KI1E2RAAiBviB2E5KIIwiB7B6K8DxiBAAI",
   "IyiBNiHuDhGAAIlCziBgBnNAAdIGlEqNK9IAAII0iBN7KuDhGAAG4C0GKqHAAEqF0GAAEvD1iBAAKIrNCRB6RAAkBsNII",
   "2iB7B3iB8D4iBAAII5iBNiHuDhGAAII6iBEGFHAAI0CrK/BLKgCAAKPnGb7iByBLKgCAAII8iBN7KuDhGAAEvD9iBAAEh",
   "D+iBAAEvD7RAAII/iBEGFHAAEvDgjBAAEvD8RAAIPtFbsK/BLAAIlE9RzC+RgD/RAAEhDhjBAAEhDijBAAEhDjjBAAEhD",
   "kjBAAE6GkKAAE6GlKAAEhD7RAAEhD8RAAEvD9JAAEvD+JAAEvDgKAAEvDhKAAEvDiKAAEvDjKAAEhD9JAAEhD+JAAEhDg",
   "KAAEhDhKAAEhDiKAAEhDjKAAIIljBNiHuDhGAAKItNCBBgSAAkBuNIImjB7BnjB8DojBAAKPnGbpjByBLKgCAAIIqjBNi",
   "HuDhGAAIIrjB7BsjB8DtjBAAIIujB7BvjB8DwjBAAIIxjB7B6K8DyjBAAIIzjBNiHuDhGAAG4C0GK4JAAII0jBNiHuDhG",
   "AAG4C3IK1EAAII1jB7B6K8D2jBAAII3jB7B6K8D4jBAAIlC5jBgBhSAAdIGEiS2D6jBAAGFiS3D7jBAAII8jBlB9jBC4D",
   "AAICRGTH+jBAAGsDvN+B/jBAAGgBgkBAAdIGmCjS+BhkBAAGP8K+BikBAAGP8K+BjkBAAIIkkBlBlkBC4DAAIPkSwBlSK",
   "sIAAGgBmkBAAdIIPxGKsI8BmSAAGEnS2D9KAAGFnS3D+KAAGNiHuDhGAAIInkBlBokBC4DAAGPnK+B1RAAGgBnNAAdIGN",
   "oSuDhGAAGqE3IK7FAAGlBnRNoRAAImCjS4BpkBAA6BqkBGP8K+BrkBAAGP8K+BskBAAGN7KuDhGAAIItkBlBukBC4DAAG",
   "PvkB5KjNAAGEwkB2DxkBAAGFykB3DzkBAAGP0kB+BmKAAI0C1kByBLKgCAAG0CuK/BLAAGP2kB+BpSAAE6K3kBAAGnE4K",
   "K4kBAAG8F5kBEqSAAG9F6kBFqSAAG8F7kBErSAAG9F8kBFrSAAG8F9kBE+kBAAG9F/kBFglBAAEmDLAAE+F3FAAE+F+GA",
   "AE+F/GAAEmDhNAAGEsS2DhlBAAGFsS3DilBAAICBGCHjlBAAIPxGKsI8BtSAAGEuS2D9KAAGFuS3D+KAAGEvS2DklBAAG",
   "FvS3DllBAAGEwS2D9KAAGFwS3D+KAAGExS2DmlBAAGFxS3DnlBAAGEyS2D9KAAGFyS3D+KAAIIolBlBplBC4DAAGgBqlB",
   "AAdIGgBhSAAdIIIrlBlBslBC4DAAIItlBlBulBC4DAAIIvlBlBwlBC4DAAGCxlBmBylBAAGIzlB+B0lBAAGI1lB+B2lBA",
   "AEI3lBAAG3E4lBsDvNAAG/BuPzC9BAAGPnGb5lBAAGPtFb6lBAAGC4DyB7lBAAG6FpNG8lBAAGPkSwBlSAAGPxG8BmSAA",
   "GPlE8BzPAAGI9lBC4DAAIIrNB6RAAkBsNGE/FFgGAAErF+lBAAGP/lBbzSAAG3EgmB0ChmBAAGPtFbimBAAGPnGbjmBAA",
   "GPnGbkmBAAGPtFblmBAAGPmmBb0SAAGPnmBb1SAAG3EomB0CpmBAAGPqmBb2SAAElE9RAAGnE9GK7FAAGIrmBC4DAAGPs",
   "mBwB7NAAGN3SCtmBAAE0FjNAAGlFwNKsIAAGPlE8BumBAAGPxG8BvmBAAGPwmB8BwNAAGIxmBC4DAAGPlEwB2PAAIyB/E",
   "7B/KGkFAAE7KymBAAErFzmBAAGP0mBbwRAAGC4DyB1mBAAG0C4SKsIAAGP2mBbzRAAElEpSAAGI3mBC4DAAG7GxNKsIAA",
   "GP4mBwBxNAAGPlEwB5mBAAErF6mBAAGP7mBb5SAAGP8mBb6SAAGnE4KAA6B9mBErF+mBAAGPnGb/mBAAGPtFbgnBAAG6F",
   "pNGpRAAGPxG8BtSAAGPlE8BmQAAIItNBgSAAkBuNGPtFbhnBAAGPnGbinBAAGPnGbjnBAAGPtFbknBAAGPlE8BlnBAAGP",
   "xG8BmnBAAGPlEwBnQAAIyB/E7BgLGkFAAGPlEwBnnBAAGPtFbonBAAGPtFbpnBAAGPtFbqnBAAGPlEwBsQAAIyB/E7BhL",
   "GkFAAGPlEwBrnBAAIyB/E7BiLGkFAAGCsnBmBtnBAAGwGunBnCpOAAGnE9GK1EAAGIvnBC4DAAGIwnBC4DAAGIxnBC4DA",
   "AGIynBC4DAAECznBAAEN3SAAE+B0nBAAE+BtPAAGI1nBlB2nBAAEsDvNAAGP3nBsD7SAAEN4nBAAEC5nBAAEsF6nBAAE+",
   "B7nBAAE+B8nBAAE+BvPAAE+BwPAAENiHAAEC4DAAEN9nBAAGI+nBAAkB/nBGIrNAAkBsNG4BgoBAA6BhoBGIioBlBjoBA",
   "AE0C1SAAE0C0SAAGCLfoNAAGCLf8SAAENkoBAAE+BloBAAEsFmoBAAECnoBAAElFwNAAE5CooBAAE+BpoBAAGyB/E7B/K",
   "AAG7B/KGkFAAENoSAAENqoBAAE0C4SAAG4BroBAA6BsoBE+BtoBAAEN7KAAENuoBAAEsFvoBAAE7GxNAAEN3QAAE+BwoB",
   "AAE0C5SAAE0CxoBAAE/BhNAAE0CyoBAAE0C6SAAE+BsGAAEnEzoBAAEsF0oBAAE+B1oBAAE+BsHAAGzC+RgD/RAAE+B2o",
   "BAAE+B5MAAE+B8MAAE+B9MAAGI3oBAAkB4oBGItNAAkBuNGyB/E7BgLAAG7BgLGkFAAGyB/E7BhLAAG7BhLGkFAAGyB/E",
   "7BiLAAG7BiLGkFAAEAAtF5oBEzC9BAAEhF6oBAAEKgIAAEf7oBAAEI8oBAAEe9oBAAEK+oBAAE3E/oBAAEAA8G9SEsD7S",
   "AAEwByPAAEnCgpBAAEfoNAAEf8SAAEfhpBAAEAA9G9SEAAuFipBEbzSAAEIjpBAAEIkpBAAECLAAEKlpBAAEImpBAAEb2",
   "SAAEsDnpBAAE3EopBAAEyBppBAAE4B0PAAEIqpBAAEb1PAAEIrpBAAE8B3PAAEb4PAAE7B/KAAEsDspBAAEItpBAAEsDu",
   "pBAAEsDvpBAAEIwpBAAEsDxpBAAEyBypBAAE4B5PAAE8B6PAAEsDzpBAAEyB7PAAEwB8PAAEwB9PAAEwB+PAAE4B/PAAE",
   "wB0pBAAEsD1pBAAEwBgQAAEwBhQAAEwBiQAAEwB2pBAAEwB3pBAAEwBjQAAEwBkQAAEzCPAAEK1EAAEf4pBAAEAA8G+SE",
   "wBlQAAEf5pBAAEf6pBAAEf7pBAAEAA9G+SEAAuF8pBE8BoQAAEbpQAAE7BgLAAE8BqQAAEzCxCAAEK7FAAEf9pBAAEwBr",
   "QAAEf+pBAAEf/pBAAEfgqBAAEAAuFhqBE7BhLAAEwBtQAAEAAuFiqBE7BiLAAEAAtFjqBEwBuQAAEwBvQAAEwBwQAAEwB",
   "xQAAEAAtFkqBEAAtFlqBEzC5DAAEK6JAAEfmqBAAEfnqBAAEfoqBAAEfpqBAAE4ByQAAE4BzQAAEzC8DAAEfqqBAAEfrq",
   "BAAEfsqBAAEftqBAAE4B0QAAEK7JAA"]

end Coverage.Script.Automaton
