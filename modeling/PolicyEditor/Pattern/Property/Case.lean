import PolicyEditor.Pattern.Property.Category

/-!
# Character classes by letter case

Properties about case come in two kinds: what case a character has, and whether it changes when a
text is converted to a case.

## Main definitions

* `CharClass.lowercase`, `CharClass.uppercase`, `CharClass.cased` : characters that have a case.
* `CharClass.changesWhenLowercased`, `CharClass.changesWhenUppercased`,
  `CharClass.changesWhenTitlecased`, `CharClass.changesWhenCasefolded`,
  `CharClass.changesWhenCasemapped` : characters that a conversion changes.
-/

namespace PolicyEditor

/-- The code points of a run, without those whose mappings are newer. -/
def Text.CaseRun.codes (run : Text.CaseRun) : List Nat :=
  (List.range' run.first ((run.last - run.first) / run.step + 1) run.step).filter
    fun n => !Spans.contains n Text.lateCaseRanges

/-- The code points that a run maps its ones to. -/
def Text.CaseRun.images (run : Text.CaseRun) : List Nat :=
  run.codes.map fun (n : Nat) => ((n : Int) + run.offset).toNat

namespace CharClass

/-! ### Characters with a case -/

/-- Lowercase characters. -/
def lowercase : CharClass :=
  (ofCategories [.ll]).union (ofRanges Text.otherLowercaseRanges)

/-- Uppercase characters. -/
def uppercase : CharClass :=
  (ofCategories [.lu]).union (ofRanges Text.otherUppercaseRanges)

/-- Characters with a case. -/
def cased : CharClass :=
  unions [lowercase, uppercase, ofCategories [.lt]]

/-! ### Characters that change -/

/-- The characters of code points. -/
def ofCodes (codes : List Nat) : CharClass :=
  ofRanges (codes.map fun n => (n, n))

/-- Characters with a simple mapping to lower case. -/
def lowercaseSources : CharClass :=
  (ofRanges [(0x41, 0x5A)]).union (ofCodes (Text.lowercaseRuns.flatMap (·.codes)))

/-- Characters to which a simple mapping to lower case leads. -/
def lowercaseTargets : CharClass :=
  (ofRanges [(0x61, 0x7A)]).union (ofCodes (Text.lowercaseRuns.flatMap (·.images)))

/-- Characters whose simple case folding is no mapping to lower case. -/
def foldingSources : CharClass :=
  ofCodes (Text.foldingRuns.flatMap (·.codes))

/-- Characters that become several ones, or whose parts change, in upper case. -/
def expandedInUppercase : CharClass :=
  ofRanges [(0x131, 0x131), (0x149, 0x149), (0x1F0, 0x1F0), (0x390, 0x390), (0x3B0, 0x3B0),
    (0x587, 0x587), (0x1E96, 0x1E9A), (0x1F50, 0x1F50), (0x1F52, 0x1F52), (0x1F54, 0x1F54),
    (0x1F56, 0x1F56), (0x1FB2, 0x1FB2), (0x1FB4, 0x1FB4), (0x1FB6, 0x1FB7), (0x1FC2, 0x1FC2),
    (0x1FC4, 0x1FC4), (0x1FC6, 0x1FC7), (0x1FD2, 0x1FD2), (0x1FD6, 0x1FD7), (0x1FE2, 0x1FE2),
    (0x1FE4, 0x1FE4), (0x1FE6, 0x1FE7), (0x1FF2, 0x1FF2), (0x1FF4, 0x1FF4), (0x1FF6, 0x1FF7),
    (0xFB00, 0xFB04), (0xFB06, 0xFB06), (0xFB13, 0xFB17)]

/-- Characters that become several ones, or whose parts change, when case is folded. -/
def expandedInFolding : CharClass :=
  ofRanges [(0xDF, 0xDF), (0x130, 0x130), (0x149, 0x149), (0x587, 0x587), (0x13F8, 0x13FD),
    (0x1E9A, 0x1E9A), (0x1F80, 0x1F87), (0x1F90, 0x1F97), (0x1FA0, 0x1FA7), (0x1FB2, 0x1FB4),
    (0x1FB7, 0x1FB7), (0x1FC2, 0x1FC4), (0x1FC7, 0x1FC7), (0x1FF2, 0x1FF4), (0x1FF7, 0x1FF7),
    (0xAB70, 0xABBF), (0xFB00, 0xFB04), (0xFB06, 0xFB06), (0xFB13, 0xFB17)]

/-- Characters that change in lower case. -/
def changesWhenLowercased : CharClass :=
  lowercaseSources.union (single 'İ')

/-- Characters that change in upper case. -/
def changesWhenUppercased : CharClass :=
  unions [lowercaseTargets, foldingSources, expandedInUppercase, ofCategories [.lt]]

/-- Characters that change in title case.  Georgian letters do not, while capital pairs of letters
do. -/
def changesWhenTitlecased : CharClass :=
  (unions [lowercaseTargets, foldingSources, expandedInUppercase,
    ofRanges [(0x1C4, 0x1C4), (0x1C7, 0x1C7), (0x1CA, 0x1CA), (0x1F1, 0x1F1)]]).difference
    (ofRanges [(0x10D0, 0x10FA), (0x10FD, 0x10FF)])

/-- Characters that change when case is folded.  Cherokee letters are folded to capitals, and some
Greek letters consist of parts that do not change. -/
def changesWhenCasefolded : CharClass :=
  (unions [lowercaseSources, foldingSources, expandedInFolding]).difference
    (ofRanges [(0x13A0, 0x13F5), (0x1FBE, 0x1FBE), (0x1FD3, 0x1FD3), (0x1FE3, 0x1FE3)])

/-- Characters that change in some case. -/
def changesWhenCasemapped : CharClass :=
  unions [changesWhenLowercased, changesWhenUppercased, changesWhenTitlecased]

end CharClass

end PolicyEditor
