import PushLang.Character.Category
import PushLang.Character.Trait

namespace PushLang.Property

open Trait (having)

/-- The characters of the named categories that have one of the named traits as well, or instead. -/
def either (categories traits : List String) : CharSet :=
  CharSet.ofRanges ((Category.union categories).ranges ++ traits.flatMap fun t => (having t).ranges)

def lowercase : CharSet := either ["ll"] ["olower"]

def uppercase : CharSet := either ["lu"] ["oupper"]

def cased : CharSet := either ["lu", "ll", "lt"] ["olower", "oupper"]

/-- What is passed over when a word is looked at for its case. -/
def caseIgnorable : CharSet :=
  either ["mn", "me", "cf", "lm", "sk"] [] ∪
    CharSet.ofRanges [(0x27, 0x27), (0x2e, 0x2e), (0x3a, 0x3a), (0xb7, 0xb7), (0x387, 0x387),
      (0x55f, 0x55f), (0x5f4, 0x5f4), (0x2018, 0x2019), (0x2024, 0x2024), (0x2027, 0x2027),
      (0xfe13, 0xfe13), (0xfe52, 0xfe52), (0xfe55, 0xfe55), (0xff07, 0xff07), (0xff0e, 0xff0e),
      (0xff1a, 0xff1a)]

def changesWhenCasemapped : CharSet := having "cwl" ∪ having "cwu" ∪ having "cwt"

def alphabetic : CharSet :=
  either ["lu", "ll", "lt", "lm", "lo", "nl"] ["oalpha", "olower", "oupper"]

def math : CharSet := either ["sm"] ["omath"]

def graphemeExtend : CharSet := either ["mn", "me"] ["ogrext"]

def graphemeBase : CharSet :=
  (either ["cc", "cf", "co", "cn", "zl", "zp"] [] ∪ graphemeExtend).complement

def idStart : CharSet :=
  either ["lu", "ll", "lt", "lm", "lo", "nl"] ["oids"] \ (having "patsyn" ∪ having "patws")

def idContinue : CharSet := idStart ∪ either ["mn", "mc", "nd", "pc"] ["oidc"]

/-- What is not in an identifier once its compatibility forms are replaced. -/
def notNormal : CharSet :=
  CharSet.ofRanges [(0x37a, 0x37a), (0x309b, 0x309c), (0xfc5e, 0xfc63), (0xfdfa, 0xfdfb),
    (0xfe70, 0xfe70), (0xfe72, 0xfe72), (0xfe74, 0xfe74), (0xfe76, 0xfe76), (0xfe78, 0xfe78),
    (0xfe7a, 0xfe7a), (0xfe7c, 0xfe7c), (0xfe7e, 0xfe7e)]

def xidContinue : CharSet := idContinue \ notNormal

def xidStart : CharSet :=
  idStart \ (notNormal ∪
    CharSet.ofRanges [(0xe33, 0xe33), (0xeb3, 0xeb3), (0xff9e, 0xff9f)])

def wordCharacters : CharSet := alphabetic ∪ either ["mn", "mc", "me", "nd", "pc"] ["joinc"]

def digits : CharSet := (Category.find? "nd").getD .empty

def numerals : CharSet := Category.union ["nd", "nl", "no"]

def blanks : CharSet := having "space"

def derived? (name : String) : Option CharSet :=
  match name with
  | "lower" | "lowercase" => some lowercase
  | "upper" | "uppercase" => some uppercase
  | "cased" => some cased
  | "ci" | "caseignorable" => some caseIgnorable
  | "cwcm" | "changeswhencasemapped" => some changesWhenCasemapped
  | "alpha" | "alphabetic" => some alphabetic
  | "math" => some math
  | "grext" | "graphemeextend" => some graphemeExtend
  | "grbase" | "graphemebase" => some graphemeBase
  | "ids" | "idstart" => some idStart
  | "idc" | "idcontinue" => some idContinue
  | "xids" | "xidstart" => some xidStart
  | "xidc" | "xidcontinue" => some xidContinue
  | _ => none

end PushLang.Property
