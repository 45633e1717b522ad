/-!
# States and rules

The states are numbered from zero, which stands for a fault, and one, in which a text starts.
-/

namespace Coverage.Script.Automaton

/-- The states, packed; a state is a group of its row of actions, its row of targets, its mode of
the lexer and its context. -/
def packedStates : List String :=
  ["EAAABEBBBCECCCCEDCCCEEDCCEFECCEGECCEHFBCEIGBCEJFBCEKHBCELFBCEMIBCEMFBCENFBCEOFBCEPJBCEQFBCERK",
   "BCESFBCETLBCEUFBCEVMBCEWNBCEXFBCEYOBCEZPBCEZQBCEZRBCEZSBCEZTBCEZUBCEZVBCEZWBCEZXBCEZYBCEZZBCE",
   "ZaBCEZbBCEZcBCEZdBCEYeBCEYfBCEYgBBCEYhBBCEYiBBCEYjBBCEYkBBCEYlBBCEYmBBCEYnBBCEYoBBCEYpBBCEYqB",
   "BCEYrBBCEYsBBCEatBDDEbuBDEEcvBDEEdwBDDEexBDDEfADEEgBADEEhBADEEiBADEEjBADEEkBADEElBADEEmBADEEn",
   "BADEEoBADEEpBADEEqBADEErBADEEsBADEEtBADEEuByBBCEuBzBBCEvB0BBCEwB0BBCExB0BBCEyB0BBCEzB0BBCE0B1",
   "BBCE0B2BBCE1B3BBCE1B4BBCE2B5BBCE3B6BBCE4B7BBCE5B8BBCE6B9BBCE3B+BBCE7B/BBCE8BgCBCE7BhCBCE9BiCB",
   "CE+BjCBCE/BkCBCEgClCBCEhCkCBCEiCmCBCEjCnCBCEkCoCBCElCpCBCEmCqCBCEmCkCBCEnCrCBCEoCsCBFEpCtCBCE",
   "pCuCBCEpCvCBCEpCwCBCEqCxCBCErCyCBCEsCzCBCEtC0CBCEuC1CBCEvC2CBCEwC3CBCExC4CBCEyC5CBCEzC6CBCE0C",
   "7CECE1C8CBCE2C9CFEE3C+CBCE3C/CBCE1CgDBCE3ChDBCE1CiDBCE1CjDBCE1CkDBCE1ClDBCE3CmDBCE3CnDBCE3CoD",
   "BCE3CpDBCE3CqDBCE3CrDBCE3CsDBCE3CtDBCE4CuDBCE4CvDBCE4CwDBCE4CxDBCE4CyDBCE4CzDBCE5C0DECE6C1DFE",
   "E7C2DBCE7C3DBCE7C4DBCE7C5DBCE7C6DBCE7C7DBCE8C8DECE9C1DFEE+C9DBCE3C+DBCE+C/DBCE3CgEBCE+ChEBCE+",
   "CiEBCE+CjEBCE+CkEBCE3ClEBCE/CmEECEgDnEBCEgDoEBCEgDpEBCEgDqEBCEgDrEBCEgDsEBCEhDtEECEzCuEBCEzCv",
   "EBCEzCwEBCEzCxEBCEiDyEBCEjDzEBCEzC0EBCEkD1EBCEzC2EBCEzC3EBCEkD4EBCEzC5EBCEzC6EBCEzC7EBCEzC8EB",
   "CEzC9EBCEzC+EBCEzC/EBCEzCgFBCEzChFBCEzCiFBCEzCjFBCEzCkFBCEzClFBCEzCmFBCE3CnFBCEzCoFBCEzCpFBCE",
   "zCqFBCE3CrFBCE3CsFBCE3CtFBCE3CuFBCEzCvFBCE3CwFBCE3CxFBCE3CyFBCE3CzFBCE3C0FBCE3C1FBCE3C2FBCE3C",
   "3FBCE3C4FBCE3C5FBCE3C6FBCE3C7FBCE3C8FBCE3C9FBCE3C+FBCE3C/FBCE3CgGBCE3ChGBCE3CiGBCE3CjGBCElDkG",
   "BCE3ClGBCE3CmGBCEmDnGBCEkDoGBCEkDpGBCEkDqGBCEkDrGBCEkDsGBCEkDtGBCEkDuGBCEkDvGBCEkDwGBCEkDxGBC",
   "EkDyGBCEkDzGBCEkD0GBCEkD1GBCEkD2GBCEkD3GBCEkD4GBCEkD5GBCEkD6GBCEkD7GBCEmD8GBCEmD9GBCEmD+GBCEm",
   "D/GBCEmDgHBCEkDhHBCEmDiHBCEmDjHBCEmDkHBCEmDlHBCEmDmHBCEmDnHBCEmDoHBCEmDpHBCEmDqHBCEmDrHBCEmDs",
   "HBCEmDtHBCE3CuHBCEmDvHBCEkDwHBCEmDxHBCEmDyHBCElDzHBCElD0HBCElD1HBCElD2HBCElD3HBCElD4HBCElD5HB",
   "CElD6HBCElD7HBCElD8HBCElD9HBCElD+HBCElD/HBCElDgIBCElDhIBCElDiIBCElDjIBCElDkIBCElDlIBCElDmIBCE",
   "kDnIBCEkDoIBCEnDpIFEEoDqIFEEpDrIFEEqDrIFEErDpIFEEsDsIFEEtDsIFEEuDtIFEEvDtIFEEwDtIFEExDtIFEEyD",
   "uIFDEzDuIFDE0DvIFEE1DwIFEE2DuIFDE3DvIFEE4DxIBCE5DABFE6DABFE7DyIFDE8DvIFEE9DyIFDE+DzIFEE/DzIFE",
   "EgEvIFEEhE0IFEEiE0IFEEjEABCEkEuIFDElEuIFDEmEABCEnEvIFEEoE1IBCEpEuIFDEqEyIFDErEvIFEEsE2IFEEtEA",
   "BCEuE3IBCEvEABFEwEABFExEABCEyEABFEzEABFE0EABFE1EABFE2EABFE3EABFE4EABFE5EABCE6EABFE7EABFE8EABF",
   "E9EABFE+EABFE/EABFEgFABFEhF2IFEEiFyIFDEjF4IFDEkF4IFDElFABCEmFABCEnFABCEoFABCEpFABCEqFABCErFAB",
   "CEsFABCEtFABCEuFABCEtFABCEvFABCEwFABCExFABCEyFABCEzFABCE0F5IFDE1FABCE2FABCE3FABCE4FABCE5FABCE",
   "6FABCE7FABCEtFABCE8FABCE8FABCE9FABCE+FABCE+FABCE+FABCE/FABCEgGABCEhGABCEiGABCEjGABCEkGABCElGA",
   "BCEmGABCE8FABCEnGABCEnGABCEoGABCEpGABCEqGABCErGABCEsGABCEtGABCEtGABCEuGABCEvGABCEwGABCExGABCE",
   "yGABCEzGABCE0GABCE1GABCE2GABCE3GABCE4GABCE5GABCE6GABCE7G2IFEE8G6IFEE9GAFDE+GAFDE9GAFDE+GAFDE/",
   "GAFDEgHAFDEhHAFDEiH7IFEEjH7IFEEkHAFDElH8IFDEmHAFDEnHAFDEoHAFDEpHAFDEqHAFDErHAFEEsHAFEEtHAFDEu",
   "HAFDEvHAFEEwHAFEExHAFEEyHAFEEzHAFEEyHAFEEzHAFEE0HAFEE1HAFEE2HABCE3HABCE4HABCE5HABCE5HABCE5HAB",
   "CE5HABCE5HABCE6HAFDE7HAFDE8HAFEE9HAFDE+HAFDE/HABCEgIAFEEhIAFEEiIAFEEjIAFEEkIAFEElIAFEEmIAFEEn",
   "IAFEEoIAFEEpIAFDEqIAFDErIAFDEsIAFDEtIAFDEuIAFDEvIAFDEwIAFEExIAFDEyIAFDEzIAFDE0IAFDE1IAFDE2IAF",
   "DE3IAFDE4IAFDE5IAFDE6IAFDE7IAFDE8IAFDE9IAFDE+IAFDE/IAFDEgJ9IDDEhJ9IDDEiJADEEjJ+IDDEkJ+IDDElJ/",
   "IDDEmJ/IDDEnJ/IDDEoJADEEpJADEEqJADDErJADDEsJADDEtJADDEuJADDEvJADDEwJADDExJADDEyJADDEzJADDE0JA",
   "DDE1JADDE2JADDE3JADDE4JADDE5JADDE6JADDE5JADDE7JADDE8JADDE9JADDE+JADDE/JADDEgKADDEhKADDEiKADDE",
   "jKADDEkKADDElKADDEmKAGDEnKADDEoKADDEpKADDEqKADDErKADDEsKADDEtKADDEjKADDEuKADDEvKADDEwKADDExKA",
   "DDEyKADDEzKADDE0KADDE1KADDE2KADDE3KADDE4KADDE5KADDE6KADDE7KADDE8KADDE9KADDE+KADDE/KADDEgLADDE",
   "hLADDEiLgJDEEjLgJDEEkLADDElL/IDDEmL/IDDEnL/IDDEoL/IDDEpL/IDDEqL/IDDErL/IDDEsL/IDDEtL/IDDEuL/I",
   "DDEvL/IDDEwL/IDDExL/IDDEyL/IDDEzL/IDDEsL/IDDE0L/IDDE1L/IDDE2L/IDDE3L/IDDE4L/IDDE5L/IDDE6L/IDD",
   "E7L/IDDE8LADDE9LADDE+LADDE/LhJDEEgMhJDEEhMiJDEEiMADEEjMADEEkMiJDEElMiJDEEmMADEEnMADEEoMADEEpM",
   "ADEEqM/IDDErMADEEsMADEEtMADEEuMADEEvMADEEwMADDExMiJDEEyMADEEzMADEE0MADEE1MADEE0MADEE2MADEE3Mi",
   "JDEE4MADEE5MiJDEE6MADEE7MADEE8MiJDEE9MADEE+MADEE/MADEEgNADEEhNADEEiNAGEEjNADEEkNiJDEElNADEEmN",
   "iJDEEnNiJDEEoNADEEpNiJDEEqNiJDEErNiJDEEsNiJDEEtNiJDEEuNiJDEEvNiJDEEwNiJDEEpNiJDEExNiJDEEyNiJD",
   "EEzNADEE0NADEE1NADEE2NiJDEE3NADEE4NiJDEE/MADEE5NADEE6NADEE7NADEE8NADEE9NADEE+NiJDEE/NADEEgOAD",
   "EEhOiJDEEiOADEEjOiJDEEkOADEElOADEEmOADEEnOADEEoOADEEpOADEEqOADEErOiJDEEsOADDEtOADDEuOADEEvOAD",
   "EEwOADEExOADEEyOADEEzOADEE0OADEE1OADEE2OADEE3OADEE4OADEE5OADEE6OADEE7OADEE8OADEE9OADEE+OAGEE/",
   "OADDEgPADDEhPADDEiPiJDEEjPiJDEEkPiJDEElPiJDEEmPiJDEEnPiJDEEoPiJDEEpPiJDEEqPiJDEErPiJDEEsPiJDE",
   "EtPiJDEEuPiJDEEvPiJDEEoPiJDEEwPiJDEExPiJDEEyPiJDEEzPiJDEE0PiJDEE1PiJDEE2PiJDEE3PiJDEE4PADEE5P",
   "iJDEE6PjJDEE7PADEE8PjJDEE9PjJDEE+PADDE/P/IDDEgQADDEhQiJDEEiQADEEjQiJDEEkQiJDEElQ/IDDEmQiJDEEn",
   "QADDEoQADDEpQADDEqQkJDDErQlJDDEsQlJDDEtQkJDDEuQ/IDDEvQkJDDEwQmJDDExQiJDEEyQkJDDEzQkJDDE0QiJDE",
   "E1QkJDDE2QkJDDE3QkJDDE4QkJDDE5QkJDDE6QkJDDE7QkJDDE8QkJDDE9QkJDDE+QkJDDE/QkJDDEgRkJDDEhRkJDDEi",
   "RkJDDEjRADDEkRADDElRADDEmRADDEnRkJDDEoRnJDDEpRoJDDEqRkJDDErRkJDDEsRkJDDEtR/IDDEuR/IDDEvR/IDDE",
   "wR/IDDExR/IDDEyR/IDDEzR/IDDE0R/IDDE1R/IDDE2R/IDDE3R/IDDE4R/IDDE5R/IDDE6R/IDDEzR/IDDE7R/IDDE8R",
   "/IDDE9R/IDDE+R/IDDE/R/IDDEgS/IDDEhS/IDDEiS/IDDEjSkJDDEkSpJDDElSkJDDEmSkJDDEnSkJDDEoSkJDDEpSkJ",
   "DDEqS/IDDErSkJDDEsSkJDDEtSkJDDEuSqJCCEvSiJDEEwS/IDDExSiJDEEyS/IDDEzS/IDDE0SAGDE1SrJCCE2SqJCCE",
   "3SqJCCE4SqJCCE5SqJCCE6SADDE7S/IDDE8S/IDDE9S/IDDE+S/IDDE/S/IDDEgT/IDDEhT/IDDEiT/IDDEjT/IDDEkT/",
   "IDDElT/IDDEmT/IDDEnT/IDDEoT/IDDEhT/IDDEpT/IDDEqT/IDDErT/IDDEsT/IDDEtT/IDDEuT/IDDEvT/IDDEwT/ID",
   "DExTADDEyT/IDDEzT/IDDE0T/IDDE1T/IDDE2T/IDDE3T/IDDE4T/IDDE5T/IDDE6T/IDDE7T/IDDE8TsJCCE9TiJDDE+",
   "T/IDDE/TtJCCEgUuJBCEhUvJCCEiUwJCCEjUxJCCEkUxJCCElUyJBCEmUzJCCEnUxJCCEoU0JCCEpUxJCCEqU1JBCErUt",
   "IBCEsUtIBCEtUsIBCEuUsIBCEvUtIBCEwUtIBCExUtIBCEyUtIBCEzUtIBCE0UtIBCE1UtIBCE2UtIBCE3UtIBCE4U2JB",
   "FE5UsIBCE6UtIBCE7UtIBCE8UtIBCE9UtIBCE+U3JCCE/U4JBCEgV4JBCEhV5JBCEiV5JBCEjV4JBCEkV3JCCElV6JBFE",
   "mV7JCCEnV4JBCEoV4JBCEpV8JBFEqV5JBCErV9JBFEsV+JBFEtV/JBFEuVgKHCEvV6JBFEwV4JBCExV9JBFEyVhKBFEzV",
   "iKBFE0VjKBFE1VkKBFE2VlKCCE3VACCE4VAHCE5VACCE5VACCE6VACCE6VACCE6VACCE6VACCE6VACCE6VACCE6VACCE7",
   "VACCE7VACCE7VACCE7VACCE7VACCE7VACCE7VACCE7VACCE7VACCE7VACCE7VACCE7VACCE8VACCE8VACCE8VACCE8VAC",
   "CE8VACCE8VACCE9VACFE+VACFE/VmKBCEgWmKBCEhWnKBCEiWoKBCEjWpKBCEkWACCElWACCEmWqKBCEnWrKBCEoWACCE",
   "pWACCEqWACCErWACCEsWACCEtW9JBCEuWsKBCEvWACCEwW4JBCExWACCEyWnKBCEzWmKBCE0WtKBCE1WuKBCE2WvKBCE3",
   "WACCE4WwKBCE5WxKBCE6WyKBCE7WzKBCE8W0KBCE9W1KBCE+W2KBCE/W3KBCEgX4KBCEhX5KBCEiX6KBCEjXACCEkXACC",
   "ElXACCEmX6JBCEnXnKBCEoX9JBCEpX7KBCEqX8KBCErX9KBCEsX+KBCEtX/KBCEuXgLBCEvXhLBCEwXiLBCExXjLBCEyX",
   "kLBCEzXAFCE0X4JBCE1XmKBCE2XlLBCE3XwKBCE4XmLBCE5XnLBCE6XoLBCE7XpLBCE8XqLBCE9XAFCE+XAFCE/XAFCEg",
   "Y6JBCEhY9JBCEiYrLBCEjY8KBCEkYsLBCElYtLBCEmYuLBCEnYvLBCEoYwLBCEpYAFCEqYxLDCErYyLHGEsYzLICEtY0L",
   "HGEuY1LHGEvY2LICEwY3LHGExY4LHGEyY5LICEzY6LHGE0Y7LHGE1Y8LICE2Y9LHGE3YzLICE4YzLICE5Y+LHGE6Y2LIC",
   "E7Y2LICE8Y5LICE9Y5LICE+Y8LICE/Y8LICEgZzLICEhZ/LICEiZgMBCEiZhMBCEjZ/LICEkZ2LICElZ/LICEmZ5LICEn",
   "Z/LICEoZ8LICEpZ/LICEqZiMBCErZjMBCEsZkMBCEsZ2IBCEtZABCEsZlMBCEuZmMBCEvZ5IBCEwZ7IBCExZABCEyZAIC",
   "EzZnMBCE0ZABCE1ZABCE2ZoMBCE3ZpMBFE4ZqMBFE5ZABCE6ZnMBCE7ZoMBCE8ZrMBCE9Z6IBCE+ZrMBCE/Z7IBCEga7I",
   "BCEha7IBCEia7IBCEjasMJHEkatMJHElaABFEmaABFEnauMBCEoaAICEpavMBFEqatMJHEraABFEsawMBCEtaxMBCEua8",
   "IBCEvayMBCEwaAICExaAICEyazMBFEya0MBFEzawMBCE0a1MBFE1anMBCE2aoMBCE3aABFE4aABFE5aABFE6aABFE7aAB",
   "FE8aABCE9aABCE+a2MJHE/atMJHEgb3MICEhb4MBCEiblKBCEjbqMBFEkb5MBCElbABCEmbABCEnbAHGEob6MBCEpb7MI",
   "CEqb8MBCErb9MBCEsbABCEtb+MBCEub/MBCEvbAHGEwbAICExbAHGEybgNBCEzbAHGE0bAHGE1bhNBCE2bABFE3bAICE4",
   "bAICE5bAICE6bAICE7bABFE8bABFE9bAICE+bAICE/bAHGEgcAHGEhcAHGEicAHGEjcAHGEkcAHGElcAICEmcAICEncAI",
   "CEocAICEpcAICEqcAICErc4MBCEsciNBCEtcjNICEuckNBCEvc8MBCEwclNICExcmNICEycnNICEzc4MBCE0cABCE1c8M",
   "BCE2cABCE3coNICE4cpNICE5clKBCE6cqNKIE7crNLIE8csNBCE9ciJDCE+ctNBFE/clKBCEgduNBFEhdvNBFEidwNBFE",
   "jdxNBCEkdyNBCEldlKBCEmdzNBCEnd0NKIEod1NLIEpd2NBCEqd3NBCErd4NBFEsdlKBCEtd5NBCEudABCEvd6NBCEwd7",
   "NBFExd8NBFEyd8NBFEzd9NBCE0d+NBCE1d/NBCE2d0NKIE3d1NLIE4d4NBFEpdgOBCEtdhOBCE5dABCE6dABCE7d8NBFE",
   "zdiOBCE8dAJHE9djOBCE+dkOMCE/dlONCEgemOMCEhenONCEiemOMCEjenONCEkeABFEleABCEmeABCEneABCEoeABFEp",
   "eoOKIEqepOLIEre/IDCEseqOBCEte0NKIEue1NLIEpdrOBCEpdsOBCEpdtOBCEpduOBCEvevOKIEwewOLIExe0NKIEye1",
   "NLIEzexOKIE0eyOLIE1e0NKIE2e1NLIE3esNBCE4elKBCE5elKBCE6e3NBCE7esNBCE8e3NBCE9ezOBCE+eABFE/eABFE",
   "gf0OBCEhftNBCEifABCEjf1OBCEkf2OBCElf3OBCEkf4OBCEjf5OBCEmfADCEnfyNBCEofzNBCEpf6OBCEpf/NBCEof7O",
   "BCEqf8OBCErfABCEsf9OBCEtfABFEuf+OBCEvfABCEwf4OBCExf5OBCEyf5OBCEzf4OBCE0f4OBCE1f5OBCE2fABCE3f/",
   "OBCE4fABFE5fABCE6fgPBCE7fhPBCE8fiPBCE9fABCE+fABCE/f/NBCEggB7OBCEhgB7OBCEigBjPBCEjgBkPBCEjgB/N",
   "BCEkgBAECElgBABFEmgBABFEngBlPBCEogB3OBCEpgBABCEqgBmPBCErgBABFEsgBnPBCEtgBABCEugBhPBCEvgB/NBCE",
   "wgBABFExgBlPBCEygBmPBCEzgBABFE0gBABFE1gBoPBCE2gBpPBCE2gB4OBCE1gB5OBCE3gBADCE4gBqOBCE5gBqPBCE5",
   "gB/NBCE4gB7OBCE6gBABCE7gB4OBCE8gB5OBCE9gB5OBCE+gB4OBCE/gB/NBCEghB7OBCEhhBrPBCEhhB/NBCEihBAECE",
   "jhB/NBCEkhBsPBCEkhB4OBCElhB4OBCEmhB4OBCEnhBtPBCEnhB/NBCEohBAECEphB/NBCEqhBAECErhBuPBCEshB3IBC",
   "EthBABCEuhB8OBCEvhBjPBCEwhB8OBCExhBjPBCEyhBvPBCEyhBwPBCEyhBxPBCEyhByPBCEzhBzPBCE0hBABFE1hBABF",
   "E2hBABCE3hBtNBCE4hBABCE3hB0PBCE5hB1PBCE6hB2PBCE7hBABCE8hBABFE9hBABFE+hBABFE/hBABFEgiB3PBCEhiB",
   "4PBCEiiB5PBCEjiBABCEkiBABCEliBABFEmiBABCEhiB6PBCEhiB7PBCEniBABCEoiBABCEpiBABCEqiBABCEzhB8PBCE",
   "hiB9PBCEriB+PBCEsiBABFEhiB/PBCEtiBABCEuiBgQBCEzhBhQBCEviBABCEwiBAICExiBABFEgiBiQBCEhiBjQBCEii",
   "BkQBCEhiBlQBCEiiBmQBCEiiBnQBCEyiBABCEziBAECEgiBoQBCE0iBpQBCEhiBqQBCEhiBrQBCE1iBsQBCEzhBtQBCEh",
   "iBuQBCE2iBABCEhiBvQBCEhiBwQBCEhiBxQBCEhiByQBCEhiBzQBCEhiB0QBCEzhB1QBCE3iBABFE4iBABFE5iB2QBCEh",
   "iB3QBCEhiB4QBCE6iB5QBCE7iBABCE8iBABCE9iB6QBCE+iBABFEhiB7QBCEiiB8QBCEiiB9QBCEiiB+QBCEgiB/QBCE/",
   "iBABCEgjBABCEhiBgRBCE1iBhRBCE1iBiRBCE0iBjRBCEhjBABCEzhBkRBCEhiBlRBCEzhBmRBCEhiBnRBCEhiBoRBCEh",
   "iBpRBCEzhBqRBCEhiBrRBCEhiBsRBCEhiBtRBCEhiBuRBCEzhBvRBCEhiBwRBCEhiBxRBCEhiByRBCEhiBzRBCEzhB0RB",
   "CEzhB1RBCEzhB2RBCEijBABCEjjBABCEkjBABFEljBABCEhiB3RBCE6iB4RBCE6iB5RBCEmjBABCE5iB6RBCEnjBABFEn",
   "jBABFEiiB7RBCE1iB8RBCEzhB9RBCEzhB+RBCEzhB/RBCEzhBgSBCEzhBhSBCEhiBiSBCEhiBjSBCEhiBkSBCEzhBlSBC",
   "EzhBmSBCEzhBnSBCEzhBoSBCEhiBpSBCEhiBqSBCEhiBrSBCEzhBsSBCEzhBtSBCEzhBuSBCEojBABFEpjBABCE6iBvSB",
   "CEzhBwSBCEqjBABFEzhBxSBCEzhBySBCEzhBzSBCEzhB0SBCEzhB1SBCEzhB2SBCErjBABFEsjBABFEtjBABFE5iB3SBC",
   "E6iB4SBCEujBABCEvjBABCE9iB8PBCEgiB5SBCE6iB6SBCE6iB7SBCEiiB8SBCEwjBABCExjBAECE5iB9SBCE9iBtQBCE",
   "9iB1QBCEgiB+SBCEiiB/SBCE6iBgTBCEiiBhTBCEiiBiTBCEgiBjTBCE9iBkRBCE9iBmRBCE9iBqRBCE9iBvRBCE9iB0R",
   "BCE9iB1RBCE9iB2RBCEiiBkTBCEiiBlTBCEgiBmTBCEiiBnTBCE9iB9RBCE9iB+RBCE9iB/RBCE9iBgSBCE9iBhSBCE9i",
   "BlSBCE9iBmSBCE9iBnSBCE9iBoSBCE9iBsSBCE9iBtSBCE9iBuSBCEiiBoTBCE9iBxSBCE9iBySBCE9iBzSBCE9iB0SBC",
   "E9iB1SBCE9iB2SBCEyjBABCEzjBAECE0jBABCE1jBAECEyhBpTBCEyhBqTBCEyhBrTBCE6hBsTBCEhiBtTBCEhiBuTBCE",
   "hiBvTBCEhiBwTBCEhiBxTBCEhiByTBCEhiBzTBCEhiB0TBCEhiB1TBCEhiB2TBCEhiB3TBCEhiB4TBCEhiB5TBCEhiB6T",
   "BCEhiB7TBCEhiB8TBCEhiB9TBCEhiB+TBCEhiB/TBCEhiBgUBCEhiBhUBCEhiBiUBCEhiBjUBCEhiBkUBCEhiBlUBCEhi",
   "BmUBCEhiBnUBCEhiBoUBCEhiBpUBCEhiBqUBCEhiBrUBCEhiBsUBCEhiBtUBCE2jBAOJE3jBABCE4jBABCE5jBABCE6jB",
   "ABCE7jBABCE8jBABCE9jBABCE+jBABCE/jBABCEgkBABCEhkBABCEikBABCEjkBABCEkkBABCElkBABCEmkBABCEnkBAP",
   "CEokBABCEpkBABCEqkBABCErkBABCEskBABCEtkBABCEukBABCEvkBABCEwkBABCExkBABCEykBABCEzkBABCE0kBABCE",
   "1kBABCE2kBABCE3kBABCE4kBABCE5kBABCE6kBABCE7kBABCE8kBABCE9kBABCE+kBABCE/kBABCEglBABCEhlBABCEil",
   "BABCEjlBABCEklBABCEllBABCEmlBABCEnlBABCEolBABCEplBABCEqlBABCErlBABCEslBABCEtlBABCEulBABCEvlBA",
   "BCEwlBABCExlBABCEylBABCEzlBABCE0lBABCE1lBABCE2lBABCE3lBABCE4lBABCE5lBABCE6lBAPCE7lBABCE8lBABC",
   "E9lBABCE+lBABCE/lBABCEgmBABCEhmBABCEimBABCEjmBABCEkmBABCElmBABCEmmBAPCEnmBABCEomBABCEpmBAPCEq",
   "mBABCErmBAOJEsmBABCEtmBABCEumBABCEvmBABCEwmBAOJExmBAOJEymBABCEzmBABCE0mBABCE1mBABCE2mBABCE3mB",
   "ABCE4mBABCE5mBABCE6mBABCE7mBABCE8mBABCE9mBABCE+mBABCE/mBABCEgnBABC"]

/-- The rules, packed; a rule is a group of its phrase, the number of its parts, one more than its
precedence among readings of one text, and its shape. -/
def packedRules : List String :=
  ["EAABAEABBAEACBAEBCBAEBDBAEBEBAEBEBcEBFBuBECDBAEDCBAEDDBAEDEBAEDFBAEEBBDEEDBDEFBBAEGBBAEHBBAEI",
   "DBAEIEBAEIFBAEJBBAEJDBAEKCBAELDBAEMCBAEMDBAEMEBAEMFBAENBBDENDBDEOCBAEPBBAEQCBAERDBAEREBAESDBA",
   "ESEBAETBBDETCBDEUCBAEUDBAEUEBAEVCBAEWDBOEWEBgBEXDBPEYGByBEYHB2BEYHB3BEYHB4BEYIB8BEYIB9BEYIB+B",
   "EYJB/BEZDBNEZEBhBEaFBwBEaFBxBEaGB1BEaHB7BEbDBQEcEBiBEcFBiBEdCBEEdDBEEdEBEEeDBNEfCBAEfDBREgBCB",
   "AEgBDBREhBCBAEiBCBAEiBDBAEjBDBAEkBBBAElBDAHEmBCBAEmBDBAEnBDBfEnBEB0BEoBCBAEoBDBNEpBCBEEpBFB5B",
   "EqBCBEErBDBAEsBBBAEtBBBAEtBBBBEuBBBAEuBCBAEuBDBAEvBCBAEvBDBAEvBDBKEvBEBAEvBEBKEwBCBAEwBDBAEwB",
   "DBLEwBEBAEwBEBLExBDBWEyBDBWEyBDBdEzBCBAEzBDBAEzBEBAE0BCBAE0BDBAE0BEBAE1BCBAE1BDBAE2BCBAE2BDBA",
   "E3BCAAE3BDASE3BEASE4BDBZE5BDBAE6BCBAE6BDBSE7BDBSE7BEBSE8BBBAE8BBBCE8BDBAE8BDBCE9BCBAE9BDBAE+B",
   "CBEE+BDBNE+BDBUE+BEBhBE+BEBkBE+BEBqBE+BFBvBE/BDBUE/BEBUE/BEBkBE/BEBqBE/BFBkBE/BFBqBE/BFBvBE/B",
   "GBvBEgCCBAEhCDBVEhCEBmBEhCEBpBEhCFBsBEiCEBpBEiCFBpBEiCFBsBEiCGBsBEjCEBmBEjCFBrBEjCFBsBEjCGBzB",
   "EkCFBsBEkCGBsBEkCGBzBEkCHBzBElCDBJElCDBXElCDBbElCEBlBElCEBnBElCEBoBEmCCBAEmCDBAEnCCBAEnCDCAEo",
   "CCBAEpCDBZEpCDBaEqCEBAEqCFBAErCDBIErCDBWEsCBBAEsCBBBEtCDBYEuCCBfEwCCBAExCFBtBEyCDBYEzCCBFE0CC",
   "BFE0CCBGE1CCBAE2CCBAE2CDBAE3CCBAE3CDBAE4CDBAE5CDBAE5CEBAE6CDBAE7CCBAE7CDBAE7CEBAE8CCBAE9CDBZE",
   "+CCBAE/CCBAE/CDBAEgDBBTEgDCBTEgDCBjBEgDDBaEgDDBjBEgDEBaEhDCBAEhDDBAEhDEBAEhDFBAEiDCBEEiDDBNEj",
   "DBAAEjDBABEkDCBAEkDCBMElDDBeElDEBpBElDFBsBElDGBzBElDHB6BEmDDBcEnDDBcEoDBBAEoDBBCEpDDBAEqDCBAE",
   "rDBBAErDCBAEsDCBAEtDCBAEuDCBAEvDCBAEwDBBAEwDCBAEwDCBKExDBBAExDCBAExDCBLEyDBBAEyDCBAEzDBBAEzDC",
   "BAE0DCBAE1DBBAE1DCBAE2DCBAE3DCBAE4DCBAE5DCBAE6DCBAE7DCBAE8DBBAE8DCBAE9DCBA"]

end Coverage.Script.Automaton
