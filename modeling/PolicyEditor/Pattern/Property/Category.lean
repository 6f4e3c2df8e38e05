import PolicyEditor.Pattern.Class

/-!
# Character classes by general category

Every code point has one general category.  Some names stand for several categories together.

## Main definitions

* `CharClass.assigned` : the characters with a meaning.
* `CharClass.ofCategoryName?` : the class of a general category or of a group of them.
-/

namespace PolicyEditor.CharClass

/-- Letters. -/
def letter : CharClass :=
  ofCategories [.lu, .ll, .lt, .lm, .lo]

/-- Characters outside the category for others: letters, marks, numbers, punctuation, symbols and
separators. -/
def ordinary : CharClass :=
  ofCategories [.lu, .ll, .lt, .lm, .lo, .mn, .mc, .me, .nd, .nl, .no, .pc, .pd, .ps, .pe, .pi, .pf,
    .po, .sm, .sc, .sk, .so, .zs, .zl, .zp]

/-- Characters to which a meaning is assigned. -/
def assigned : CharClass :=
  ordinary.union (ofCategories [.cc, .cf, .co])

/-- The class of a general category or of a group of them.  Surrogates are no characters. -/
def ofCategoryName? : (name : String) → Option CharClass
  | "any" => some any
  | "ascii" => some ⟨[(0x00, 0x7F)]⟩
  | "assigned" => some assigned
  | "c" | "other" => some ordinary.complement
  | "cc" | "control" | "cntrl" => some (ofCategories [.cc])
  | "cf" | "format" => some (ofCategories [.cf])
  | "cn" | "unassigned" => some assigned.complement
  | "co" | "privateuse" => some (ofCategories [.co])
  | "l" | "letter" => some letter
  | "lc" | "casedletter" => some (ofCategories [.lu, .ll, .lt])
  | "ll" | "lowercaseletter" => some (ofCategories [.ll])
  | "lm" | "modifierletter" => some (ofCategories [.lm])
  | "lo" | "otherletter" => some (ofCategories [.lo])
  | "lt" | "titlecaseletter" => some (ofCategories [.lt])
  | "lu" | "uppercaseletter" => some (ofCategories [.lu])
  | "m" | "mark" | "combiningmark" => some (ofCategories [.mn, .mc, .me])
  | "mc" | "spacingmark" => some (ofCategories [.mc])
  | "me" | "enclosingmark" => some (ofCategories [.me])
  | "mn" | "nonspacingmark" => some (ofCategories [.mn])
  | "n" | "number" => some (ofCategories [.nd, .nl, .no])
  | "nd" | "decimalnumber" | "digit" => some digit
  | "nl" | "letternumber" => some (ofCategories [.nl])
  | "no" | "othernumber" => some (ofCategories [.no])
  | "p" | "punctuation" | "punct" => some (ofCategories [.pc, .pd, .ps, .pe, .pi, .pf, .po])
  | "pc" | "connectorpunctuation" => some (ofCategories [.pc])
  | "pd" | "dashpunctuation" => some (ofCategories [.pd])
  | "pe" | "closepunctuation" => some (ofCategories [.pe])
  | "pf" | "finalpunctuation" => some (ofCategories [.pf])
  | "pi" | "initialpunctuation" => some (ofCategories [.pi])
  | "po" | "otherpunctuation" => some (ofCategories [.po])
  | "ps" | "openpunctuation" => some (ofCategories [.ps])
  | "s" | "symbol" => some (ofCategories [.sm, .sc, .sk, .so])
  | "sc" | "currencysymbol" => some (ofCategories [.sc])
  | "sk" | "modifiersymbol" => some (ofCategories [.sk])
  | "sm" | "mathsymbol" => some (ofCategories [.sm])
  | "so" | "othersymbol" => some (ofCategories [.so])
  | "z" | "separator" => some (ofCategories [.zs, .zl, .zp])
  | "zl" | "lineseparator" => some (ofCategories [.zl])
  | "zp" | "paragraphseparator" => some (ofCategories [.zp])
  | "zs" | "spaceseparator" => some (ofCategories [.zs])
  | _ => none

end PolicyEditor.CharClass
