/-!
# Where to go on behind a phrase

The rows of the table of targets. Most phrases lead to one state wherever they stand, so that a row
lists its phrases and those that lead elsewhere.
-/

namespace Coverage.Script.Automaton

/-- The state that each phrase leads to as a rule, packed as one group. -/
def packedHomes : List String :=
  ["+DwxBoLkqB1kBwnBxnBoLlmBoLmqBzqB4xB4xB5nB+qBPoLpLpL5kBoLpMoLoLoLoLdoLoLoLoLoLoLoLoLoLoLoL3Lii",
   "BiiBrK7L7O0W2PoQnQxxBonBhnBnQxxBoQnjBhgBrgB+hBtToQnjBujBnQpLuqBnQpLnQpLnQnQ3PoQ7O7OoQmfoQtjBx",
   "xBinBoQoQoQoQiqBnQnQ6hBnQnQsQieqckeoTlrByxB3d9kB9iB4dinBhnBjnBjnBP8kBqoBtoBolBiiBynBznBqnBrnB",
   "sgB0gB6lB7lBilB+kB/kB6hB/a9nB"]

/-- The rows, packed; a row is a group of a set of phrases and pairs of a phrase and its target. -/
def packedTargetRows : List String :=
  ["B8K5B9KH0kBPNtB1SuBlTvBjTzBjT1BlT3B+f7BlT+BjThCjTjCjTlCjTmCjTnC2SoClTrClTtClTxClTyClTzClT0ClT",
   "2CjT3CjT5CjT6CjTqDNrD5iBjC/FH0kBtB1SuBlTvBjTwB1xBzBjT0B1xB1BlT3B+f7BlT+BjThCjTjCjTlCjTmCjTnC2",
   "SoClTrClTtClTvC1xBxClTyClTzClT0ClT2C1W3CjT5CjT6CjTkDhnBlDinBrD6bwDknBxDlnBnC/FH0kBPRtB1SuBlTv",
   "BjTwB1xBzBjT0B1xB1BlT3B+f7BlT+BjThCjTjCjTlCjTmCjTnC2SoClTrClTtClTvC1xBxClTyClTzClT0ClT2C1W3Cj",
   "T5CjT6CjTkDhnBlDinBqDRrD6bwDknBxDlnBrC/FH0kBPTtB1SuBlTvBjTwB1xBzBjT0B1xB1BlT3B+f7BlT+BjThCjTj",
   "CjTlCjTmCjTnC2SoClTrClTtClTvC1xBwC5oBxClTyClTzClT0ClT2C1W3CjT5CjT6CjTkDhnBlD5oBmD5oBqDTrD6bwD",
   "6oBxDlnB5B4DH0kBPHtB1SuBlTvBjTzBjT1BlT3B+f7BlT+BjThCjTjCjTlCjTmCjTnC2SoClTrClTtClTxClTyClTzCl",
   "T0ClT2CjT3CjT5CjT6CjTqDHrD5iB5B4DH0kBPJtB1SuBlTvBjTzBjT1BlT3B+f7BlT+BjThCjTjCjTlCjTmCjTnC2SoC",
   "lTrClTtClTxClTyClTzClT0ClT2CjT3CjT5CjT6CjTqDJrD5iB5B4DH0kBPLtB1SuBlTvBjTzBjT1BlT3B+f7BlT+BjTh",
   "CjTjCjTlCjTmCjTnC2SoClTrClTtClTxClTyClTzClT0ClT2CjT3CjT5CjT6CjTqDLrD5iB5B4DH0kBPOtB1SuBlTvBjT",
   "zBjT1BlT3B+f7BlT+BjThCjTjCjTlCjTmCjTnC2SoClTrClTtClTxClTyClTzClT0ClT2CjT3CjT5CjT6CjTqDOrD5iB1",
   "B4DH0kBtB1SuBlTvBjTzBjT1BlT3B+f7BlT+BjThCjTjCjTlCjTmCjTnC2SoClTrClTtClTxClTyClTzClT0ClT2CjT3C",
   "jT5CjT6CjTrD5iB5B4DH0kBPRtB1SuBlTvBjTzBjT1BlT3B+f7BlT+BjThCjTjCjTlCjTmCjTnC2SoClTrClTtClTxClT",
   "yClTzClT0ClT2CjT3CjT5CjT6CjTqDRrD5iB5B4DH0kBPTtB1SuBlTvBjTzBjT1BlT3B+f7BlT+BjThCjTjCjTlCjTmCj",
   "TnC2SoClTrClTtClTxClTyClTzClT0ClT2CjT3CjT5CjT6CjTqDTrD5iB5B4DH0kBPVtB1SuBlTvBjTzBjT1BlT3B+f7B",
   "lT+BjThCjTjCjTlCjTmCjTnC2SoClTrClTtClTxClTyClTzClT0ClT2CjT3CjT5CjT6CjTqDVrD5iB5B4DH0kBPYtB1Su",
   "BlTvBjTzBjT1BlT3B+f7BlT+BjThCjTjCjTlCjTmCjTnC2SoClTrClTtClTxClTyClTzClT0ClT2CjT3CjT5CjT6CjTqD",
   "YrD5iB3BhCH0kBP6xBtB1SuBlTvBjTzBjT1BlT3B+f7BlT+BjThCjTjCjTlCjTmCjTnC2SoClTrClTtClTxClTyClTzCl",
   "T0ClT2CjT3CjT5CjT6CjTrDwkB3BhCH0kBPxLtB1SuBlTvBjTzBjT1BlT3B+f7BlT+BjThCjTjCjTlCjTmCjTnC2SoClT",
   "rClTtClTxClTyClTzClT0ClT2CjT3CjT5CjT6CjTrD5iB3BhCH0kBP0LtB1SuBlTvBjTzBjT1BlT3B+f7BlT+BjThCjTj",
   "CjTlCjTmCjTnC2SoClTrClTtClTxClTyClTzClT0ClT2CjT3CjT5CjT6CjTrD5iB3BhCH0kBPxKtB1SuBlTvBjTzBjT1B",
   "lT3B+f7BlT+BjThCjTjCjTlCjTmCjTnC2SoClTrClTtClTxClTyClTzClT0ClT2CjT3CjT5CjT6CjTrD5iB3BhCH0kBP5",
   "LtB1SuBlTvBjTzBjT1BlT3B+f7BlT+BjThCjTjCjTlCjTmCjTnC2SoClTrClTtClTxClTyClTzClT0ClT2CjT3CjT5CjT",
   "6CjTrD5iB3BhCH0kBP6LtB1SuBlTvBjTzBjT1BlT3B+f7BlT+BjThCjTjCjTlCjTmCjTnC2SoClTrClTtClTxClTyClTz",
   "ClT0ClT2CjT3CjT5CjT6CjTrD5iB3BhCH0kBPrMtB1SuBlTvBjTzBjT1BlT3B+f7BlT+BjThCjTjCjTlCjTmCjTnC2SoC",
   "lTrClTtClTxClTyClTzClT0ClT2CjT3CjT5CjT6CjTrD5iB3BhCH0kBPyMtB1SuBlTvBjTzBjT1BlT3B+f7BlT+BjThCj",
   "TjCjTlCjTmCjTnC2SoClTrClTtClTxClTyClTzClT0ClT2CjT3CjT5CjT6CjTrD5iB3BhCH0kBP6MtB1SuBlTvBjTzBjT",
   "1BlT3B+f7BlT+BjThCjTjCjTlCjTmCjTnC2SoClTrClTtClTxClTyClTzClT0ClT2CjT3CjT5CjT6CjTrD5iB3BhCH0kB",
   "P+MtB1SuBlTvBjTzBjT1BlT3B+f7BlT+BjThCjTjCjTlCjTmCjTnC2SoClTrClTtClTxClTyClTzClT0ClT2CjT3CjT5C",
   "jT6CjTrD5iB3BhCH0kBP/MtB1SuBlTvBjTzBjT1BlT3B+f7BlT+BjThCjTjCjTlCjTmCjTnC2SoClTrClTtClTxClTyCl",
   "TzClT0ClT2CjT3CjT5CjT6CjTrD5iB3BhCH0kBPgNtB1SuBlTvBjTzBjT1BlT3B+f7BlT+BjThCjTjCjTlCjTmCjTnC2S",
   "oClTrClTtClTxClTyClTzClT0ClT2CjT3CjT5CjT6CjTrD5iB3BhCH0kBPiNtB1SuBlTvBjTzBjT1BlT3B+f7BlT+BjTh",
   "CjTjCjTlCjTmCjTnC2SoClTrClTtClTxClTyClTzClT0ClT2CjT3CjT5CjT6CjTrD5iB3BhCH0kBPjNtB1SuBlTvBjTzB",
   "jT1BlT3B+f7BlT+BjThCjTjCjTlCjTmCjTnC2SoClTrClTtClTxClTyClTzClT0ClT2CjT3CjT5CjT6CjTrD5iB3BhCH0",
   "kBPkNtB1SuBlTvBjTzBjT1BlT3B+f7BlT+BjThCjTjCjTlCjTmCjTnC2SoClTrClTtClTxClTyClTzClT0ClT2CjT3CjT",
   "5CjT6CjTrD5iB3BhCH0kBPlNtB1SuBlTvBjTzBjT1BlT3B+f7BlT+BjThCjTjCjTlCjTmCjTnC2SoClTrClTtClTxClTy",
   "ClTzClT0ClT2CjT3CjT5CjT6CjTrD5iB3BhCH0kBPxLtB1SuBlTvBjTzBjT1BlT3B+f7BlT+BjThCjTjCjTlCjTmCjTnC",
   "2SoClTrClTtClTxClTyClTzClT0ClT2CjT3CjT5CjT6CjTrDwkB3BhCH0kBP0LtB1SuBlTvBjTzBjT1BlT3B+f7BlT+Bj",
   "ThCjTjCjTlCjTmCjTnC2SoClTrClTtClTxClTyClTzClT0ClT2CjT3CjT5CjT6CjTrDwkB3BhCH0kBP2pBtB1SuBlTvBj",
   "TzBjT1BlT3B+f7BlT+BjThCjTjCjTlCjTmCjTnC2SoClTrClTtClTxClTyClTzClT0ClT2CjT3CjT5CjT6CjTrDwkB3Bh",
   "CH0kBP5LtB1SuBlTvBjTzBjT1BlT3B+f7BlT+BjThCjTjCjTlCjTmCjTnC2SoClTrClTtClTxClTyClTzClT0ClT2CjT3",
   "CjT5CjT6CjTrDwkB3BhCH0kBP6LtB1SuBlTvBjTzBjT1BlT3B+f7BlT+BjThCjTjCjTlCjTmCjTnC2SoClTrClTtClTxC",
   "lTyClTzClT0ClT2CjT3CjT5CjT6CjTrDwkB3BhCH0kBPrMtB1SuBlTvBjTzBjT1BlT3B+f7BlT+BjThCjTjCjTlCjTmCj",
   "TnC2SoClTrClTtClTxClTyClTzClT0ClT2CjT3CjT5CjT6CjTrDwkB3BhCH0kBPyMtB1SuBlTvBjTzBjT1BlT3B+f7BlT",
   "+BjThCjTjCjTlCjTmCjTnC2SoClTrClTtClTxClTyClTzClT0ClT2CjT3CjT5CjT6CjTrDwkB3BhCH0kBP6MtB1SuBlTv",
   "BjTzBjT1BlT3B+f7BlT+BjThCjTjCjTlCjTmCjTnC2SoClTrClTtClTxClTyClTzClT0ClT2CjT3CjT5CjT6CjTrDwkB3",
   "BhCH0kBP+MtB1SuBlTvBjTzBjT1BlT3B+f7BlT+BjThCjTjCjTlCjTmCjTnC2SoClTrClTtClTxClTyClTzClT0ClT2Cj",
   "T3CjT5CjT6CjTrDwkB3BhCH0kBP/MtB1SuBlTvBjTzBjT1BlT3B+f7BlT+BjThCjTjCjTlCjTmCjTnC2SoClTrClTtClT",
   "xClTyClTzClT0ClT2CjT3CjT5CjT6CjTrDwkB3BhCH0kBPgNtB1SuBlTvBjTzBjT1BlT3B+f7BlT+BjThCjTjCjTlCjTm",
   "CjTnC2SoClTrClTtClTxClTyClTzClT0ClT2CjT3CjT5CjT6CjTrDwkB3BhCH0kBPiNtB1SuBlTvBjTzBjT1BlT3B+f7B",
   "lT+BjThCjTjCjTlCjTmCjTnC2SoClTrClTtClTxClTyClTzClT0ClT2CjT3CjT5CjT6CjTrDwkB3BhCH0kBPjNtB1SuBl",
   "TvBjTzBjT1BlT3B+f7BlT+BjThCjTjCjTlCjTmCjTnC2SoClTrClTtClTxClTyClTzClT0ClT2CjT3CjT5CjT6CjTrDwk",
   "B3BhCH0kBPkNtB1SuBlTvBjTzBjT1BlT3B+f7BlT+BjThCjTjCjTlCjTmCjTnC2SoClTrClTtClTxClTyClTzClT0ClT2",
   "CjT3CjT5CjT6CjTrDwkB3BhCH0kBPlNtB1SuBlTvBjTzBjT1BlT3B+f7BlT+BjThCjTjCjTlCjTmCjTnC2SoClTrClTtC",
   "lTxClTyClTzClT0ClT2CjT3CjT5CjT6CjTrDwkBTWrB3NsB6RwB4zB0B4zBpC3NqC3NsCwfvC4zBhDrzB3BWH0kBsBnTt",
   "B1SuBlTvBjTzBjT1BlT3B+f7BlT+BjThCjTjCjTlCjTmCjTnC2SoClTrClTtClTxClTyClTzClT0ClT2CjT3CjT5CjT6C",
   "jTrD2mBnCWH0kBrBjPsBzWtB1SuBlTvBjTwBr0BzBjT0Br0B1BlT3B+f7BlT+BjThCjTjCjTlCjTmCjTnC2SoClTpCjPq",
   "CjPrClTsCyftClTvCr0BxClTyClTzClT0ClT2CjT3CjT5CjT6CjThDs0BrD2mBTWrBxNsBlZwBqzB0BqzBpCxNqCxNsCx",
   "fvCqzBhD5zBTWrByPsBuawB40B0B40BpCyPqCyPsC8fvC40BhDz0BVgGrB3NsBlXwB8iB0B8iBpC8OqC8OsCwfvC8iBwC",
   "pnBhDrzBVgGrB3NsBmXwB8iB0B8iBpC8OqC8OsCwfvC8iBwCpnBhDrzBXgGrB3NsBiYwB8iB0B8iBpC8OqC8OsCwfvC8i",
   "BwC+oBhDrzByD/oB5BvFGwLH0kBsBqZtB1SuBlTvBjTzBjT1BlT3B+f7BlT+BjThCjTjCjTlCjTmCjTnC2SoClTrClTtC",
   "lTxClTyClTzClT0ClT2CjT3CjT5CjT6CjTrDjlB5BvFGvMH0kBsBsZtB1SuBlTvBjTzBjT1BlT3B+f7BlT+BjThCjTjCj",
   "TlCjTmCjTnC2SoClTrClTtClTxClTyClTzClT0ClT2CjT3CjT5CjT6CjTrDjlB5BvFGwLH0kBsBqZtB1SuBlTvBjTzBjT",
   "1BlT3B+f7BlT+BjThCjTjCjTlCjTmCjTnC2SoClTrClTtClTxClTyClTzClT0ClT2CjT3CjT5CjT6CjTrD3mB5BvFGvMH",
   "0kBsBsZtB1SuBlTvBjTzBjT1BlT3B+f7BlT+BjThCjTjCjTlCjTmCjTnC2SoClTrClTtClTxClTyClTzClT0ClT2CjT3C",
   "jT5CjT6CjTrD3mBZhGrBxNsB6awBrkBxB9oB0BrkBpChPqChPsCxfvCrkBhD5zBjDmmBzDgpBb+GRtDStDkBtDrBlPsBn",
   "XwB7nB0B7nBpClPqClPsCwfvC7nB1CqyBhDrzBZ+KrB3NsBoXwB8iBxBjrB0B8iBpC8OqC8OsCwfvC8iBwC/nBhDrzBjD",
   "goBThGrB3NsBxawB8iB0B8iBpCqPqCqPsCwfvC8iBhDrzBThGrBxNsB6awBrkB0BrkBpChPqChPsCxfvCrkBhD5zBb+GR",
   "vDSvDkBvDrBlPsBoZwB7nB0B7nBpClPqClPsCwfvC7nB1C30BhDrzBZ/GrB3NsBkXwB8iBxBnnB0B8iBpC8OqC8OsCwfv",
   "C8iB1C5xBhDrzBjD7kBX4ErBxNsB6awBrkBxBjrB0BrkBpChPqChPsCxfvCrkBhD5zBjDgoBZ/GrB3NsB+YwB8iBxBnnB",
   "0B8iBpC8OqC8OsCwfvC8iB1C6zBhDrzBjD7kBX4ErBxNsB6awBrkBxBnnB0BrkBpChPqChPsCxfvCrkBhD5zBjD7kBXiG",
   "rB3NsBqXwB4zB0B4zBpC3NqC3NsCwfvC4zBwCloBhDrzByDmoBX4ErBxNsB6awBrkBxBksB0BrkBpChPqChPsCxfvCrkB",
   "hD5zBjDwoBV/KrB3NsBoXwB4zB0B4zBpC3NqC3NsCwfvC4zBwC/nBhDrzBXiGrB3NsBjYwB4zB0B4zBpC3NqC3NsCwfvC",
   "4zBwCopBhDrzByDppBXiGrB3NsB/YwB4zB0B4zBpC3NqC3NsCwfvC4zBwCwpBhDrzByDxpBXgHrB3NsBtXwB4zB0B4zBp",
   "C3NqC3NsCwfvC4zBwCvyB1CvyBhDrzBX4ErB3NsBrZwB8iBxB1rB0B8iBpC8OqC8OsCwfvC8iBhDrzBjDsoBX4ErBxNsB",
   "6awBrkBxB1rB0BrkBpChPqChPsCxfvCrkBhD5zBjDsoBXgHrB3NsBlYwB4zB0B4zBpC3NqC3NsCwfvC4zBwC0zB1C0zBh",
   "DrzB5B3CH0kBsB2WtB1SuBlTvBjTzBjT1BlT3B+f7BlT+BjThCjTjCjTlCjTmCjTnC2SoClTrClTtClTxClTyClTzClT0",
   "ClT1CsqB2CjT3CjT5CjT6CjTrD2mBXwFkByDrB3NsBvXwB4zB0B4zBpC3NqC3NsCwfvC4zB1C4yBhDrzBXwFkB0DrB3Ns",
   "B1XwB4zB0B4zBpC3NqC3NsCwfvC4zB1C/yBhDrzBXwFkB2DrB3NsBmZwB4zB0B4zBpC3NqC3NsCwfvC4zB1Cw0BhDrzBX",
   "wFkB4DrB3NsBnZwB4zB0B4zBpC3NqC3NsCwfvC4zB1Cx0BhDrzBTWrBxPsB6awB3pB0B3pBpCxPqCxPsCxfvC3pBhD5zB",
   "V3CrB3NsB0XwB4zB0B4zBpC3NqC3NsCwfvC4zB1C+yBhDrzBV3CrB3NsB3XwB4zB0B4zBpC3NqC3NsCwfvC4zB1CjzBhD",
   "rzBV3CrB3NsB4XwB4zB0B4zBpC3NqC3NsCwfvC4zB1CkzBhDrzBV3CrB3NsB8XwB4zB0B4zBpC3NqC3NsCwfvC4zB1Coz",
   "BhDrzBV3CrB3NsBhZwB4zB0B4zBpC3NqC3NsCwfvC4zB1Ck0BhDrzBV3CrB3NsBiZwB4zB0B4zBpC3NqC3NsCwfvC4zB1",
   "Cl0BhDrzBV3CrB3NsBjZwB4zB0B4zBpC3NqC3NsCwfvC4zB1Cm0BhDrzBV3CrB3NsBkZwB4zB0B4zBpC3NqC3NsCwfvC4",
   "zB1Cn0BhDrzB5B3CH0kBsB3WtB1SuBlTvBjTzBjT1BlT3B+f7BlT+BjThCjTjCjTlCjTmCjTnC2SoClTrClTtClTxClTy",
   "ClTzClT0ClT1CtqB2CjT3CjT5CjT6CjTrD2mBvBWH0kBrBzOsB5atB3RvBjTwBqzBzBjT0BqzB+BjThCjTjCjTlCjTmCj",
   "TnC4RpCzOqCzOsCxfvCqzB2CjT3CjT5CjT6CjTrD2mB5BiCH0kBUvTsBwTtB1SuBlTvBjTzBjT1BlT3B+f7BlT+BjThCj",
   "TjCjTlCjTmCjTnC2SoClTrClTtClTxClTyClTzClT0ClT2CjT3CjT5CjT6CjTrD2mBFhHGqLrD2kBV3CrB3NsBhYwB4zB",
   "0B4zBpC3NqC3NsCwfvC4zB1CtzBhDrzBV3CrB3NsBpXwB4zB0B4zBpC3NqC3NsCwfvC4zB1CsyBhDrzB5BiCH0kBU8TsB",
   "9TtB1SuBlTvBjTzBjT1BlT3B+f7BlT+BjThCjTjCjTlCjTmCjTnC2SoClTrClTtClTxClTyClTzClT0ClT2CjT3CjT5Cj",
   "T6CjTrD2mBV3CrB3NsBsXwB4zB0B4zBpC3NqC3NsCwfvC4zB1CuyBhDrzB5BiCH0kBUvUsBwUtB1SuBlTvBjTzBjT1BlT",
   "3B+f7BlT+BjThCjTjCjTlCjTmCjTnC2SoClTrClTtClTxClTyClTzClT0ClT2CjT3CjT5CjT6CjTrD2mB5BiCH0kBU2Us",
   "B3UtB1SuBlTvBjTzBjT1BlT3B+f7BlT+BjThCjTjCjTlCjTmCjTnC2SoClTrClTtClTxClTyClTzClT0ClT2CjT3CjT5C",
   "jT6CjTrD2mB5BiCH0kBU5UsB6UtB1SuBlTvBjTzBjT1BlT3B+f7BlT+BjThCjTjCjTlCjTmCjTnC2SoClTrClTtClTxCl",
   "TyClTzClT0ClT2CjT3CjT5CjT6CjTrD2mB5BiCH0kBU7UsB8UtB1SuBlTvBjTzBjT1BlT3B+f7BlT+BjThCjTjCjTlCjT",
   "mCjTnC2SoClTrClTtClTxClTyClTzClT0ClT2CjT3CjT5CjT6CjTrD2mBV3CrB3NsBwXwB4zB0B4zBpC3NqC3NsCwfvC4",
   "zB1C5yBhDrzBV3CrB3NsBxXwB4zB0B4zBpC3NqC3NsCwfvC4zB1C7yBhDrzBV3CrB3NsByXwB4zB0B4zBpC3NqC3NsCwf",
   "vC4zB1C8yBhDrzBV3CrB3NsBzXwB4zB0B4zBpC3NqC3NsCwfvC4zB1C9yBhDrzBV3CrB3NsB2XwB4zB0B4zBpC3NqC3Ns",
   "CwfvC4zB1CizBhDrzBV3CrB3NsB5XwB4zB0B4zBpC3NqC3NsCwfvC4zB1ClzBhDrzBV3CrB3NsB6XwB4zB0B4zBpC3NqC",
   "3NsCwfvC4zB1CmzBhDrzBV3CrB3NsB7XwB4zB0B4zBpC3NqC3NsCwfvC4zB1CnzBhDrzBViCUwQrB3NsB8RwB4zB0B4zB",
   "pC3NqC3NsCwfvC4zBhDrzBViCU8QrB3NsB/RwB4zB0B4zBpC3NqC3NsCwfvC4zBhDrzBViCUhRrB3NsBtSwB4zB0B4zBp",
   "C3NqC3NsCwfvC4zBhDrzBViCUoRrB3NsBuSwB4zB0B4zBpC3NqC3NsCwfvC4zBhDrzBViCUqRrB3NsBvSwB4zB0B4zBpC",
   "3NqC3NsCwfvC4zBhDrzBViCUrRrB3NsBwSwB4zB0B4zBpC3NqC3NsCwfvC4zBhDrzBXWrBxNsB6atBzPwBqzB0BqzBnC0",
   "PpCxNqCxNsCxfvCqzBhDrzBHhHGqLrD2kBwDipBViCUwQrBxNsBoYwBqzB0BqzBpCxNqCxNsCxfvCqzBhD5zBViCU8QrB",
   "xNsBrYwBqzB0BqzBpCxNqCxNsCxfvCqzBhD5zBViCUhRrBxNsB5YwBqzB0BqzBpCxNqCxNsCxfvCqzBhD5zBViCUoRrBx",
   "NsB6YwBqzB0BqzBpCxNqCxNsCxfvCqzBhD5zBViCUqRrBxNsB7YwBqzB0BqzBpCxNqCxNsCxfvCqzBhD5zBViCUrRrBxN",
   "sB8YwBqzB0BqzBpCxNqCxNsCxfvCqzBhD5zBXWrBxNsB6atBzPwBqzB0BqzBnC0PpCxNqCxNsCxfvCqzBhD5zBpCiCH0k",
   "BUvTrBjPsB8VtB1SuBlTvBjTwBr0BzBjT0Br0B1BlT3B+f7BlT+BjThCjTjCjTlCjTmCjTnC2SoClTpCjPqCjPrClTsCy",
   "ftClTvCr0BxClTyClTzClT0ClT2CjT3CjT5CjT6CjThDs0BrD2mBV3CrB3NsBgZwB4zB0B4zBpC3NqC3NsCwfvC4zB1Cg",
   "0BhDrzBpCiCH0kBU8TrBjPsB/VtB1SuBlTvBjTwBr0BzBjT0Br0B1BlT3B+f7BlT+BjThCjTjCjTlCjTmCjTnC2SoClTp",
   "CjPqCjPrClTsCyftClTvCr0BxClTyClTzClT0ClT2CjT3CjT5CjT6CjThDs0BrD2mBV3CrB3NsBkYwB4zB0B4zBpC3NqC",
   "3NsCwfvC4zB1CzzBhDrzBpCiCH0kBUvUrBjPsBtWtB1SuBlTvBjTwBr0BzBjT0Br0B1BlT3B+f7BlT+BjThCjTjCjTlCj",
   "TmCjTnC2SoClTpCjPqCjPrClTsCyftClTvCr0BxClTyClTzClT0ClT2CjT3CjT5CjT6CjThDs0BrD2mBpCiCH0kBU2UrB",
   "jPsBuWtB1SuBlTvBjTwBr0BzBjT0Br0B1BlT3B+f7BlT+BjThCjTjCjTlCjTmCjTnC2SoClTpCjPqCjPrClTsCyftClTv",
   "Cr0BxClTyClTzClT0ClT2CjT3CjT5CjT6CjThDs0BrD2mBpCiCH0kBU5UrBjPsBvWtB1SuBlTvBjTwBr0BzBjT0Br0B1B",
   "lT3B+f7BlT+BjThCjTjCjTlCjTmCjTnC2SoClTpCjPqCjPrClTsCyftClTvCr0BxClTyClTzClT0ClT2CjT3CjT5CjT6C",
   "jThDs0BrD2mBpCiCH0kBU7UrBjPsBwWtB1SuBlTvBjTwBr0BzBjT0Br0B1BlT3B+f7BlT+BjThCjTjCjTlCjTmCjTnC2S",
   "oClTpCjPqCjPrClTsCyftClTvCr0BxClTyClTzClT0ClT2CjT3CjT5CjT6CjThDs0BrD2mBV3CrB3NsBmYwB4zB0B4zBp",
   "C3NqC3NsCwfvC4zB1C2zBhDrzBxBWH0kBrBzOsB5atB3RvBjTwBqzBzBjT0BqzB+BjThCjTjCjTlCjTmCjTnC4RpCzOqC",
   "zOsCxfvCqzB2CjT3CjT5CjT6CjThDs0BrD2mBViCUwQrByPsB3ZwB40B0B40BpCyPqCyPsC8fvC40BhDz0BViCU8QrByP",
   "sB6ZwB40B0B40BpCyPqCyPsC8fvC40BhDz0BViCUhRrByPsBoawB40B0B40BpCyPqCyPsC8fvC40BhDz0BViCUoRrByPs",
   "BpawB40B0B40BpCyPqCyPsC8fvC40BhDz0BViCUqRrByPsBqawB40B0B40BpCyPqCyPsC8fvC40BhDz0BViCUrRrByPsB",
   "rawB40B0B40BpCyPqCyPsC8fvC40BhDz0BXWrBxNsB6atBzPwBqzB0BqzBnC0PpCxNqCxNsCxfvCqzBhDz0B3BWH0kBsB",
   "3StB1SuBlTvBjTzBjT1BlT3B+f7BlT+BjThCjTjCjTlCjTmCjTnC2SoClTrClTtClTxClTyClTzClT0ClT2CjT3CjT5Cj",
   "T6CjTrD2mB3BWH0kBsB6StB1SuBlTvBjTzBjT1BlT3B+f7BlT+BjThCjTjCjTlCjTmCjTnC2SoClTrClTtClTxClTyClT",
   "zClT0ClT2CjT3CjT5CjT6CjTrD2mB3BWH0kBsB7StB1SuBlTvBjTzBjT1BlT3B+f7BlT+BjThCjTjCjTlCjTmCjTnC2So",
   "ClTrClTtClTxClTyClTzClT0ClT2CjT3CjT5CjT6CjTrD2mB3BWH0kBsBuTtB1SuBlTvBjTzBjT1BlT3B+f7BlT+BjThC",
   "jTjCjTlCjTmCjTnC2SoClTrClTtClTxClTyClTzClT0ClT2CjT3CjT5CjT6CjTrD2mBTWrB3NsB5WwBllB0BllBpCkPqC",
   "kPsCwfvCllBhDrzBTWrBxNsB6awBtkB0BtkBpCiPqCiPsCxfvCtkBhD5zB3BWH0kBsBzTtB1SuBlTvBjTzBjT1BlT3B+f",
   "7BlT+BjThCjTjCjTlCjTmCjTnC2SoClTrClTtClTxClTyClTzClT0ClT2CjT3CjT5CjT6CjTrD2mBTWrBxNsBvawBqzB0",
   "BqzBpCxNqCxNsCxfvCqzBhD5zB3BWH0kBsB7TtB1SuBlTvBjTzBjT1BlT3B+f7BlT+BjThCjTjCjTlCjTmCjTnC2SoClT",
   "rClTtClTxClTyClTzClT0ClT2CjT3CjT5CjT6CjTrD2mB3BWH0kBsB+TtB1SuBlTvBjTzBjT1BlT3B+f7BlT+BjThCjTj",
   "CjTlCjTmCjTnC2SoClTrClTtClTxClTyClTzClT0ClT2CjT3CjT5CjT6CjTrD2mBTWrBxNsBwawBqzB0BqzBpCxNqCxNs",
   "CxfvCqzBhD5zB3BWH0kBsBgUtB1SuBlTvBjTzBjT1BlT3B+f7BlT+BjThCjTjCjTlCjTmCjTnC2SoClTrClTtClTxClTy",
   "ClTzClT0ClT2CjT3CjT5CjT6CjTrD2mB3BWH0kBsBrXtB1SuBlTvBjTzBjT1BlT3B+f7BlT+BjThCjTjCjTlCjTmCjTnC",
   "2SoClTrClTtClTxClTyClTzClT0ClT2CjT3CjT5CjT6CjTrD2mB3BWH0kBsBhUtB1SuBlTvBjTzBjT1BlT3B+f7BlT+Bj",
   "ThCjTjCjTlCjTmCjTnC2SoClTrClTtClTxClTyClTzClT0ClT2CjT3CjT5CjT6CjTrD2mB3BWH0kBsBiUtB1SuBlTvBjT",
   "zBjT1BlT3B+f7BlT+BjThCjTjCjTlCjTmCjTnC2SoClTrClTtClTxClTyClTzClT0ClT2CjT3CjT5CjT6CjTrD2mB3BWH",
   "0kBsBjUtB1SuBlTvBjTzBjT1BlT3B+f7BlT+BjThCjTjCjTlCjTmCjTnC2SoClTrClTtClTxClTyClTzClT0ClT2CjT3C",
   "jT5CjT6CjTrD2mB3BWH0kBsBkUtB1SuBlTvBjTzBjT1BlT3B+f7BlT+BjThCjTjCjTlCjTmCjTnC2SoClTrClTtClTxCl",
   "TyClTzClT0ClT2CjT3CjT5CjT6CjTrD2mB3BWH0kBsBlUtB1SuBlTvBjTzBjT1BlT3B+f7BlT+BjThCjTjCjTlCjTmCjT",
   "nC2SoClTrClTtClTxClTyClTzClT0ClT2CjT3CjT5CjT6CjTrD2mB3BWH0kBsBmUtB1SuBlTvBjTzBjT1BlT3B+f7BlT+",
   "BjThCjTjCjTlCjTmCjTnC2SoClTrClTtClTxClTyClTzClT0ClT2CjT3CjT5CjT6CjTrD2mB3BWH0kBsBnUtB1SuBlTvB",
   "jTzBjT1BlT3B+f7BlT+BjThCjTjCjTlCjTmCjTnC2SoClTrClTtClTxClTyClTzClT0ClT2CjT3CjT5CjT6CjTrD2mB3B",
   "WH0kBsBoUtB1SuBlTvBjTzBjT1BlT3B+f7BlT+BjThCjTjCjTlCjTmCjTnC2SoClTrClTtClTxClTyClTzClT0ClT2CjT",
   "3CjT5CjT6CjTrD2mB3BWH0kBsBpUtB1SuBlTvBjTzBjT1BlT3B+f7BlT+BjThCjTjCjTlCjTmCjTnC2SoClTrClTtClTx",
   "ClTyClTzClT0ClT2CjT3CjT5CjT6CjTrD2mB3BWH0kBsBqUtB1SuBlTvBjTzBjT1BlT3B+f7BlT+BjThCjTjCjTlCjTmC",
   "jTnC2SoClTrClTtClTxClTyClTzClT0ClT2CjT3CjT5CjT6CjTrD2mB3BWH0kBsBuUtB1SuBlTvBjTzBjT1BlT3B+f7Bl",
   "T+BjThCjTjCjTlCjTmCjTnC2SoClTrClTtClTxClTyClTzClT0ClT2CjT3CjT5CjT6CjTrD2mB3BWH0kBsB7WtB1SuBlT",
   "vBjTzBjT1BlT3B+f7BlT+BjThCjTjCjTlCjTmCjTnC2SoClTrClTtClTxClTyClTzClT0ClT2CjT3CjT5CjT6CjTrD2mB",
   "TWrB3NsBxawB4zB0B4zBpC3NqC3NsCwfvC4zBhDrzB3BWH0kBsB9WtB1SuBlTvBjTzBjT1BlT3B+f7BlT+BjThCjTjCjT",
   "lCjTmCjTnC2SoClTrClTtClTxClTyClTzClT0ClT2CjT3CjT5CjT6CjTrD2mB3BWH0kBsB+WtB1SuBlTvBjTzBjT1BlT3",
   "B+f7BlT+BjThCjTjCjTlCjTmCjTnC2SoClTrClTtClTxClTyClTzClT0ClT2CjT3CjT5CjT6CjTrD2mB3BWH0kBsBuXtB",
   "1SuBlTvBjTzBjT1BlT3B+f7BlT+BjThCjTjCjTlCjTmCjTnC2SoClTrClTtClTxClTyClTzClT0ClT2CjT3CjT5CjT6Cj",
   "TrD2mBTWrB3NsB/WwB4zB0B4zBpC3NqC3NsCwfvC4zBhDrzBTWrB3NsB5WwB4zB0B4zBpC3NqC3NsCwfvC4zBhDrzBTWr",
   "B3NsBtZwB4zB0B4zBpC3NqC3NsCwfvC4zBhDrzBTWrB3NsBuZwB4zB0B4zBpC3NqC3NsCwfvC4zBhDrzB3BWH0kBsBkVt",
   "B1SuBlTvBjTzBjT1BlT3B+f7BlT+BjThCjTjCjTlCjTmCjTnC2SoClTrClTtClTxClTyClTzClT0ClT2CjT3CjT5CjT6C",
   "jTrD2mBTWrB3NsBrZwB4zB0B4zBpC3NqC3NsCwfvC4zBhDrzBTWrB3NsB5PwB4zB0B4zBpC3NqC3NsCwfvC4zBhDrzBTW",
   "rB3NsB6PwB4zB0B4zBpC3NqC3NsCwfvC4zBhDrzBTWrB3NsB7RwB4zB0B4zBpC3NqC3NsCwfvC4zBhDrzBTWrB3NsB9Rw",
   "B4zB0B4zBpC3NqC3NsCwfvC4zBhDrzBTWrB3NsB+RwB4zB0B4zBpC3NqC3NsCwfvC4zBhDrzBTWrB3NsBgSwB4zB0B4zB",
   "pC3NqC3NsCwfvC4zBhDrzBTWrB3NsBhSwB4zB0B4zBpC3NqC3NsCwfvC4zBhDrzBTWrB3NsBgTwB4zB0B4zBpC3NqC3Ns",
   "CwfvC4zBhDrzBTWrB3NsBiSwB4zB0B4zBpC3NqC3NsCwfvC4zBhDrzBTWrB3NsBjSwB4zB0B4zBpC3NqC3NsCwfvC4zBh",
   "DrzBTWrB3NsBkSwB4zB0B4zBpC3NqC3NsCwfvC4zBhDrzBTWrB3NsBlSwB4zB0B4zBpC3NqC3NsCwfvC4zBhDrzBTWrB3",
   "NsBmSwB4zB0B4zBpC3NqC3NsCwfvC4zBhDrzBTWrB3NsBnSwB4zB0B4zBpC3NqC3NsCwfvC4zBhDrzBTWrB3NsBoSwB4z",
   "B0B4zBpC3NqC3NsCwfvC4zBhDrzBTWrB3NsBpSwB4zB0B4zBpC3NqC3NsCwfvC4zBhDrzBTWrB3NsBqSwB4zB0B4zBpC3",
   "NqC3NsCwfvC4zBhDrzBTWrB3NsBrSwB4zB0B4zBpC3NqC3NsCwfvC4zBhDrzBTWrB3NsBsSwB4zB0B4zBpC3NqC3NsCwf",
   "vC4zBhDrzBTWrByPsByawB40B0B40BpCyPqCyPsC8fvC40BhDz0BTWrB3NsBxSwB4zB0B4zBpC3NqC3NsCwfvC4zBhDrz",
   "BTWrB3NsB4PwB4zB0B4zBpC3NqC3NsCwfvC4zBhDrzBnCWH0kBrBjPsBgXtB1SuBlTvBjTwBr0BzBjT0Br0B1BlT3B+f7",
   "BlT+BjThCjTjCjTlCjTmCjTnC2SoClTpCjPqCjPrClTsCyftClTvCr0BxClTyClTzClT0ClT2CjT3CjT5CjT6CjThDs0B",
   "rD2mBTWrBxNsB5PwBqzB0BqzBpCxNqCxNsCxfvCqzBhD5zBTWrBxNsB6PwBqzB0BqzBpCxNqCxNsCxfvCqzBhD5zBTWrB",
   "xNsBnYwBqzB0BqzBpCxNqCxNsCxfvCqzBhD5zBTWrBxNsBpYwBqzB0BqzBpCxNqCxNsCxfvCqzBhD5zBTWrBxNsBqYwBq",
   "zB0BqzBpCxNqCxNsCxfvCqzBhD5zBTWrBxNsBsYwBqzB0BqzBpCxNqCxNsCxfvCqzBhD5zBTWrBxNsBtYwBqzB0BqzBpC",
   "xNqCxNsCxfvCqzBhD5zBTWrBxNsBuYwBqzB0BqzBpCxNqCxNsCxfvCqzBhD5zBTWrBxNsBvYwBqzB0BqzBpCxNqCxNsCx",
   "fvCqzBhD5zBTWrBxNsBwYwBqzB0BqzBpCxNqCxNsCxfvCqzBhD5zBTWrBxNsBxYwBqzB0BqzBpCxNqCxNsCxfvCqzBhD5",
   "zBTWrBxNsByYwBqzB0BqzBpCxNqCxNsCxfvCqzBhD5zBTWrBxNsBzYwBqzB0BqzBpCxNqCxNsCxfvCqzBhD5zBTWrBxNs",
   "B0YwBqzB0BqzBpCxNqCxNsCxfvCqzBhD5zBTWrBxNsB1YwBqzB0BqzBpCxNqCxNsCxfvCqzBhD5zBTWrBxNsB2YwBqzB0",
   "BqzBpCxNqCxNsCxfvCqzBhD5zBTWrBxNsB3YwBqzB0BqzBpCxNqCxNsCxfvCqzBhD5zBTWrBxNsB4YwBqzB0BqzBpCxNq",
   "CxNsCxfvCqzBhD5zBTWrBxNsB9YwBqzB0BqzBpCxNqCxNsCxfvCqzBhD5zBTWrBxNsB4PwBqzB0BqzBpCxNqCxNsCxfvC",
   "qzBhD5zBnCWH0kBrBjPsB7StB1SuBlTvBjTwBr0BzBjT0Br0B1BlT3B+f7BlT+BjThCjTjCjTlCjTmCjTnC2SoClTpCjP",
   "qCjPrClTsCyftClTvCr0BxClTyClTzClT0ClT2CjT3CjT5CjT6CjThDs0BrD2mBnCWH0kBrBjPsB7VtB1SuBlTvBjTwBr",
   "0BzBjT0Br0B1BlT3B+f7BlT+BjThCjTjCjTlCjTmCjTnC2SoClTpCjPqCjPrClTsCyftClTvCr0BxClTyClTzClT0ClT2",
   "CjT3CjT5CjT6CjThDs0BrD2mBnCWH0kBrBjPsB9VtB1SuBlTvBjTwBr0BzBjT0Br0B1BlT3B+f7BlT+BjThCjTjCjTlCj",
   "TmCjTnC2SoClTpCjPqCjPrClTsCyftClTvCr0BxClTyClTzClT0ClT2CjT3CjT5CjT6CjThDs0BrD2mBnCWH0kBrBjPsB",
   "+VtB1SuBlTvBjTwBr0BzBjT0Br0B1BlT3B+f7BlT+BjThCjTjCjTlCjTmCjTnC2SoClTpCjPqCjPrClTsCyftClTvCr0B",
   "xClTyClTzClT0ClT2CjT3CjT5CjT6CjThDs0BrD2mBnCWH0kBrBjPsBgWtB1SuBlTvBjTwBr0BzBjT0Br0B1BlT3B+f7B",
   "lT+BjThCjTjCjTlCjTmCjTnC2SoClTpCjPqCjPrClTsCyftClTvCr0BxClTyClTzClT0ClT2CjT3CjT5CjT6CjThDs0Br",
   "D2mBTWrBxNsBzawBqzB0BqzBpCxNqCxNsCxfvCqzBhD5zBnCWH0kBrBjPsBhWtB1SuBlTvBjTwBr0BzBjT0Br0B1BlT3B",
   "+f7BlT+BjThCjTjCjTlCjTmCjTnC2SoClTpCjPqCjPrClTsCyftClTvCr0BxClTyClTzClT0ClT2CjT3CjT5CjT6CjThD",
   "s0BrD2mBnCWH0kBrBjPsBiWtB1SuBlTvBjTwBr0BzBjT0Br0B1BlT3B+f7BlT+BjThCjTjCjTlCjTmCjTnC2SoClTpCjP",
   "qCjPrClTsCyftClTvCr0BxClTyClTzClT0ClT2CjT3CjT5CjT6CjThDs0BrD2mBnCWH0kBrBjPsBjWtB1SuBlTvBjTwBr",
   "0BzBjT0Br0B1BlT3B+f7BlT+BjThCjTjCjTlCjTmCjTnC2SoClTpCjPqCjPrClTsCyftClTvCr0BxClTyClTzClT0ClT2",
   "CjT3CjT5CjT6CjThDs0BrD2mBnCWH0kBrBjPsBkWtB1SuBlTvBjTwBr0BzBjT0Br0B1BlT3B+f7BlT+BjThCjTjCjTlCj",
   "TmCjTnC2SoClTpCjPqCjPrClTsCyftClTvCr0BxClTyClTzClT0ClT2CjT3CjT5CjT6CjThDs0BrD2mBnCWH0kBrBjPsB",
   "lWtB1SuBlTvBjTwBr0BzBjT0Br0B1BlT3B+f7BlT+BjThCjTjCjTlCjTmCjTnC2SoClTpCjPqCjPrClTsCyftClTvCr0B",
   "xClTyClTzClT0ClT2CjT3CjT5CjT6CjThDs0BrD2mBnCWH0kBrBjPsBmWtB1SuBlTvBjTwBr0BzBjT0Br0B1BlT3B+f7B",
   "lT+BjThCjTjCjTlCjTmCjTnC2SoClTpCjPqCjPrClTsCyftClTvCr0BxClTyClTzClT0ClT2CjT3CjT5CjT6CjThDs0Br",
   "D2mBnCWH0kBrBjPsBnWtB1SuBlTvBjTwBr0BzBjT0Br0B1BlT3B+f7BlT+BjThCjTjCjTlCjTmCjTnC2SoClTpCjPqCjP",
   "rClTsCyftClTvCr0BxClTyClTzClT0ClT2CjT3CjT5CjT6CjThDs0BrD2mBnCWH0kBrBjPsBoWtB1SuBlTvBjTwBr0BzB",
   "jT0Br0B1BlT3B+f7BlT+BjThCjTjCjTlCjTmCjTnC2SoClTpCjPqCjPrClTsCyftClTvCr0BxClTyClTzClT0ClT2CjT3",
   "CjT5CjT6CjThDs0BrD2mBnCWH0kBrBjPsBpWtB1SuBlTvBjTwBr0BzBjT0Br0B1BlT3B+f7BlT+BjThCjTjCjTlCjTmCj",
   "TnC2SoClTpCjPqCjPrClTsCyftClTvCr0BxClTyClTzClT0ClT2CjT3CjT5CjT6CjThDs0BrD2mBnCWH0kBrBjPsBqWtB",
   "1SuBlTvBjTwBr0BzBjT0Br0B1BlT3B+f7BlT+BjThCjTjCjTlCjTmCjTnC2SoClTpCjPqCjPrClTsCyftClTvCr0BxClT",
   "yClTzClT0ClT2CjT3CjT5CjT6CjThDs0BrD2mBnCWH0kBrBjPsBrWtB1SuBlTvBjTwBr0BzBjT0Br0B1BlT3B+f7BlT+B",
   "jThCjTjCjTlCjTmCjTnC2SoClTpCjPqCjPrClTsCyftClTvCr0BxClTyClTzClT0ClT2CjT3CjT5CjT6CjThDs0BrD2mB",
   "nCWH0kBrBjPsBsWtB1SuBlTvBjTwBr0BzBjT0Br0B1BlT3B+f7BlT+BjThCjTjCjTlCjTmCjTnC2SoClTpCjPqCjPrClT",
   "sCyftClTvCr0BxClTyClTzClT0ClT2CjT3CjT5CjT6CjThDs0BrD2mBTWrB3NsB0awB4zB0B4zBpC3NqC3NsCwfvC4zBh",
   "DrzBnCWH0kBrBjPsBxWtB1SuBlTvBjTwBr0BzBjT0Br0B1BlT3B+f7BlT+BjThCjTjCjTlCjTmCjTnC2SoClTpCjPqCjP",
   "rClTsCyftClTvCr0BxClTyClTzClT0ClT2CjT3CjT5CjT6CjThDs0BrD2mBTWrBxNsB1awBqzB0BqzBpCxNqCxNsCxfvC",
   "qzBhD5zBnCWH0kBrBjPsB3StB1SuBlTvBjTwBr0BzBjT0Br0B1BlT3B+f7BlT+BjThCjTjCjTlCjTmCjTnC2SoClTpCjP",
   "qCjPrClTsCyftClTvCr0BxClTyClTzClT0ClT2CjT3CjT5CjT6CjThDs0BrD2mBnCWH0kBrBjPsB6StB1SuBlTvBjTwBr",
   "0BzBjT0Br0B1BlT3B+f7BlT+BjThCjTjCjTlCjTmCjTnC2SoClTpCjPqCjPrClTsCyftClTvCr0BxClTyClTzClT0ClT2",
   "CjT3CjT5CjT6CjThDs0BrD2mBTWrByPsB5PwB40B0B40BpCyPqCyPsC8fvC40BhDz0BTWrByPsB6PwB40B0B40BpCyPqC",
   "yPsC8fvC40BhDz0BTWrByPsB2ZwB40B0B40BpCyPqCyPsC8fvC40BhDz0BTWrByPsB4ZwB40B0B40BpCyPqCyPsC8fvC4",
   "0BhDz0BTWrByPsB5ZwB40B0B40BpCyPqCyPsC8fvC40BhDz0BTWrByPsB7ZwB40B0B40BpCyPqCyPsC8fvC40BhDz0BTW",
   "rByPsB8ZwB40B0B40BpCyPqCyPsC8fvC40BhDz0BTWrByPsB9ZwB40B0B40BpCyPqCyPsC8fvC40BhDz0BTWrByPsB+Zw",
   "B40B0B40BpCyPqCyPsC8fvC40BhDz0BTWrByPsB/ZwB40B0B40BpCyPqCyPsC8fvC40BhDz0BTWrByPsBgawB40B0B40B",
   "pCyPqCyPsC8fvC40BhDz0BTWrByPsBhawB40B0B40BpCyPqCyPsC8fvC40BhDz0BTWrByPsBiawB40B0B40BpCyPqCyPs",
   "C8fvC40BhDz0BTWrByPsBjawB40B0B40BpCyPqCyPsC8fvC40BhDz0BTWrByPsBkawB40B0B40BpCyPqCyPsC8fvC40Bh",
   "Dz0BTWrByPsBlawB40B0B40BpCyPqCyPsC8fvC40BhDz0BTWrByPsBmawB40B0B40BpCyPqCyPsC8fvC40BhDz0BTWrBy",
   "PsBnawB40B0B40BpCyPqCyPsC8fvC40BhDz0BTWrByPsBsawB40B0B40BpCyPqCyPsC8fvC40BhDz0BTWrByPsB4PwB40",
   "B0B40BpCyPqCyPsC8fvC40BhDz0BTWrBxNsB3awBqzB0BqzBpCxNqCxNsCxfvCqzBhD5zBTWrBxNsB2awBqzB0BqzBpCx",
   "NqCxNsCxfvCqzBhD5zBFgLGqLrD2kBJiH2C2qBhD9xBoD2qBpD2qBLiH2C2qBhD9xBoD2qBpD2qBwDipBHjH2C2qBoD2q",
   "BpD2qBJjH2C2qBoD2qBpD2qBwDipBDnBhDwzBDnBhD9xBHkHwB6iB0B6iBvC6iBBhLDnBhD9zBJkHwB6iB0B6iBvC6iBw",
   "DipBDnBhDv0BDiLqBtMH5EwB6iB0B6iBvC6iBBjLDnBhD20BH5EwBuhB0BuhBvCuhBBlHDlHwDipBHjGwB2oB0B2oBvC2",
   "oBFmH3CuQ7C5QDnH3CuQB6EFmH3CsT7C4TDnH3CsTD6E7CqTDoH7CqTDoH4DyhBD7EyDhoBD7EyDyoBD7EyDmpBD7EyDr",
   "pBD7EyDzpBXpHwBkyB0BkyBvCkyBwC5oB2CjnBkDhnBlD5oBmD5oBrDgcwD6oBxDlnBTpHwBkyB0BkyBvCkyB2CjnBkDh",
   "nBlDinBrDgcwDknBxDlnBXkLwBkyByB3qB0BkyBvCkyBwC4qB2CjnBkD3qBlD4qBmD4qBnD3qBrDgcRlLwCspB2CroBlD",
   "spBmDspBoDroBpDroBrDgcwDtpBVqHwBkyByB4oB0BkyBvCkyB2CpyBkD4oBnD4oBoDpyBpDpyBxD7oBJxF2C/hBoD/hB",
   "pD/hBrDicPmLwC4qB2CroBlD4qBmD4qBoDroBpDroBrDgcLxF2C/hBoD/hBpD/hBrDic8DgbRqHwBkyB0BkyBvCkyB2Cp",
   "yBkDhnBoDpyBpDpyBxDlnBLxF2C/hBoD/hBpD/hBrDic8DjbLxF2C/hBoD/hBpD/hBrDic8DlbTnLwBkyByB3qB0BkyBv",
   "CkyB2CpyBkD3qBnD3qBoDpyBpDpyBJoLU7d2CoiBoDoiBpDoiBJrH2C8qBoD8qBpD8qBrDycH3B2C2qBoD2qBpD2qBJpL",
   "2C2qBoD2qBpD2qBwDupBH3B2CuwBoDuwBpDuwBJrH2CpiBoDpiBpDpiBrDycH3B2CriBoDriBpDriBH3B2CywBoDywBpD",
   "ywBH3B2C0wBoD0wBpD0wBH3B2CgxBoDgxBpDgxBD6E7CqeH3B2C2wBoD2wBpD2wBH3B2C3wBoD3wBpD3wBH3B2ChxBoDh",
   "xBpDhxBH3B2CixBoDixBpDixBDqLrDycH3B2C0rBoD0rBpD0rBFrLGgMrD2kBH3B2C3rBoD3rBpD3rBH3B2C4rBoD4rBp",
   "D4rBH3B2C7sBoD7sBpD7sBH3B2CgtBoDgtBpDgtBH3B2CkxBoDkxBpDkxBH3B2C5rBoD5rBpD5rBH3B2C6rBoD6rBpD6r",
   "BH3B2C7rBoD7rBpD7rBH3B2C0sBoD0sBpD0sBH3B2C3sBoD3sBpD3sBH3B2C4sBoD4sBpD4sBH3B2C8sBoD8sBpD8sBH3",
   "B2C9sBoD9sBpD9sBH3B2ChtBoDhtBpDhtBH3B2CitBoDitBpDitBH3B2C5tBoD5tBpD5tBH3B2C6tBoD6tBpD6tBH3B2C",
   "guBoDguBpDguBH3B2ChuBoDhuBpDhuBH3B2C1wBoD1wBpD1wBH3B2C7wBoD7wBpD7wBH3B2C9wBoD9wBpD9wBH3B2C+wB",
   "oD+wBpD+wBH3B2ClxBoDlxBpDlxBH3B2CmxBoDmxBpDmxBH3B2CpxBoDpxBpDpxBH3B2CqxBoDqxBpDqxBH3B2CsxBoDs",
   "xBpDsxBH3B2CtxBoDtxBpDtxBH3B2C2rBoD2rBpD2rBH3B2C2sBoD2sBpD2sBH3B2C6sBoD6sBpD6sBH3B2C/sBoD/sBp",
   "D/sBH3B2C4tBoD4tBpD4tBH3B2C/tBoD/tBpD/tBH3B2CzwBoDzwBpDzwBH3B2C8wBoD8wBpD8wBH3B2C/wBoD/wBpD/w",
   "BH3B2CjxBoDjxBpDjxBH3B2CoxBoDoxBpDoxBH3B2CrxBoDrxBpDrxBDsL2C3kBL9D1BggB2BggB3BkgB7BggB0DggBB8",
   "EL9D1BsgB2BsgB3BkgB6BtU7BsgBN9D1BjgB2BjgB3BkgB6BvQ7BjgB0DjgBD8E1D5gBL9D1BsgB2BsgB3BkgB6BgR7Bs",
   "gBN9D1BmgB2BmgB3BkgB6B2jB7BmgB0DmgBD8E1D7gBL9D1BsgB2BsgB3BkgB6B5jB7BsgBN9D1BpgB2BpgB3BkgB6B8j",
   "B7BpgB0DpgBD8E1D9gBL9D1BsgB2BsgB3BkgB6B/jB7BsgBJtL1BsgB2BsgB3BkgB7BsgBD8E1D3gBJsH1BujB2BujB3B",
   "ngB7BujBLsH1BvjB2BvjB3BngB7BvjB9BvjBDtH2CxnBFuHFoyB2CoyBJ5ET4kBwB6iB0B6iBvC6iBJ5ETuoBwB6iB0B6",
   "iBvC6iBJ5ET4kBwBthB0BthBvCthBFtHEssB2CxnBHuHFoyBNntB2CoyBBkGDkGuC6nBDvH4D0hBBlGFlG4CgiB7DgiBB",
   "wHFyFuCmsBhD3uBHwHnBqiBoBqiBvDqiBHjGwB3lB0B3lBvC3lBHjGwBgzB0BgzBvCgzBFyFuCvtBhD/uBFyFuCwtBhDg",
   "vBFyFuCpuBhDqvBFlG4C2iB7D2iBD+D5BzgBBiDFiDgCzuB/CqQD6E7CrUF+D4BtrB5BwyBFiDgCurB/CxUFxHFxyB2Cx",
   "yBD9ExDjpBFiDgC+uB/CiRFxHFtsB2CtsBD+EwDupBD6E7C+QF+D4B9uB5B1zBB9EF+D4BmwB5B/zBF+D4BowB5Bi0BF+",
   "D4BugB5B4gBF+D4BwgB5B6gBF+D4BygB5B8gBB/EBgFDnBhDwqBByHBzHBmGDmGuDplBDnBhD0uBB0HDnGzDioBD/E5Dt",
   "lBDgF6DulBFiDgCmrB/CkCDnBhDorBDvH4DvlBFiDgCvrB/CyKFuLL2yBM2yBDzHO9rBDmGuD0lBFiDgC/rB/C/PDnBhD",
   "5uBDrEyDslBFiDgCrsB/CnCFiDgCxsB/C3KFiDgCutB/CiQDkGuCmuBB1HB2HD1H2D8lBD2H3D9lBD/E5DnmBDgF6DomB",
   "DnGzDnpBFiDgC4uB/CnVFiDgChvB/CoVFiDgCmvB/CrVFiDgCwvB/CuVD/E5DvmBDgF6DwmBD/E5DzmBDgF6D0mBBzFBv",
   "LD9ExD0nBD+EwD1nBDnBhD7qBD+EwD2nBD9ExD3nBDrEyDhoBDnGzDjoBDnBhDqrBDwL2CooBB3HB4HDnBhD6uBD0H9Dx",
   "oBDzBU0KDnBhDosBDrEyDyoBD3HsD0oBD4HtD1oBDnBhDjvBD9ExDkpBD+EwDlpBDrEyDmpBDrEyDrpBD+EwDvpBDrEyD",
   "zpBDzFasBD/DrBbD/DrBcD/DrBnqBD/DrBeDzBU7JDyHKnlBBxLDzFafDjD/C2TDnBhDrrBDzBU3TDnBhDyrBDnBhDzrB",
   "DzBUzcDnBhD8rBDyLvB+rBDnBhDisBD/DrBzKDzBUsMDjD/ClCDnBhDpsBDzBU4UDnBhDqsBDzBU9UDzBUmCDjD/ChVDj",
   "D/C1KDnBhDvsBDnBhDwsBDzBU2KDzBU1cDnBhDzsBDnBhD1sBDnBhD5sBDnBhD+sBDnBhDjtBDnBhDktBDnBhDltBDzBU",
   "2cDjD/CgQDnBhDrtBDnBhDstBDzBUhQDzBU9dDnBhDxtBDzBUiVDzBUoCDzBUpCDjD/CqCDnBhDytBDzBU4KDzBU5KDjD",
   "/C6KDzBU3cDnBhDztBDzBU4cDnBhD0tBDnBhD1tBDnBhD2tBDzBU5cDnBhD3tBDnBhD7tBDnBhD8tBDnBhD9tBDzBU6cD",
   "nBhD+tBDnBhDiuBDnBhDjuBDnBhDkuBDzBU7cDzBU8cDzBU9cDnBhDnuBDzBUjQDzBUkQDjD/ClQDzBUrCDzBU7KDzBU+",
   "cDzBU/cDzBUgdDzBUhdDzBUidDnBhDquBDnBhDruBDnBhDsuBDzBUjdDzBUkdDzBUldDzBUmdDnBhDtuBDnBhDuuBDnBh",
   "DvuBDzBUndDzBUodDzBUpdDzBUmQDzBU8KDzBUqdDzBUrdDzBUsdDzBUtdDzBUudDzBUvdDjD/C3QDzBU4QDjD/CpVDzB",
   "UpRDzBUsRDzBUqVDjD/CwRDjD/CsVDzBUtVDzBUxRDzBUvVDzBUwVDjD/CxVDzBUyVDzBUzVDjD/C0VDzBU1VDzBU2VD/",
   "DrBqBD/DrBrBD/DrBtBDzFauBDnBhD7uBDnBhD/uBDnBhDivBDnBhDkvBDnBhDlvBDnBhDnvBDnBhDovBDnBhDpvBDnBh",
   "DrvBDnBhDsvBDnBhDtvBDnBhDuvBDnBhDvvBDnBhDxvBDnBhDyvBDnBhDzvBDnBhD0vBDnBhD1vBDnBhD2vBDnBhD3vBD",
   "nBhD4vBDnBhD5vBDnBhD6vBDnBhD7vBDnBhD8vBDnBhD9vBDnBhD+vBDnBhD/vBDnBhDgwBDnBhDhwBDnBhDiwBDnBhDj",
   "wBDnBhDkwB"]

end Coverage.Script.Automaton
