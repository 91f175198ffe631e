import PluralTemplate.Plural.RuleSets

/-!
# Languages

The languages with plural rules, by language subtag, in alphabetical order.
-/

set_option autoImplicit false

namespace PluralTemplate.Plural

/-- Each supported language with its rules. -/
def languages : List (String × Rules) :=
  [("af", .one), ("ak", .zeroToOne), ("am", .zeroWholeOrOne), ("an", .uniform),
   ("ar", .arabic), ("ars", .uniform), ("as", .zeroWholeOrOne), ("asa", .uniform),
   ("ast", .oneWithoutFraction), ("az", .one), ("bal", .uniform), ("be", .belarusian),
   ("bem", .uniform), ("bez", .uniform), ("bg", .one), ("bho", .zeroToOne),
   ("bm", .uniform), ("bn", .zeroWholeOrOne), ("bo", .uniform), ("br", .breton),
   ("brx", .one), ("bs", .southSlavic), ("ca", .oneWithoutFractionAndMillions),
   ("ce", .uniform), ("ceb", .filipino), ("cgg", .uniform), ("chr", .one), ("ckb", .one),
   ("cs", .westSlavic), ("cy", .welsh), ("da", .danish), ("de", .oneWithoutFraction),
   ("doi", .zeroWholeOrOne), ("dsb", .sorbian), ("dv", .uniform), ("dz", .uniform),
   ("ee", .one), ("el", .one), ("en", .oneWithoutFraction), ("eo", .one),
   ("es", .oneAndMillions), ("et", .oneWithoutFraction), ("eu", .one),
   ("fa", .zeroWholeOrOne), ("ff", .uniform), ("fi", .oneWithoutFraction),
   ("fil", .filipino), ("fo", .one), ("fr", .wholeZeroOrOneAndMillions),
   ("fur", .uniform), ("fy", .oneWithoutFraction), ("ga", .irish), ("gd", .gaelic),
   ("gl", .oneWithoutFractionAndMillions), ("gsw", .uniform), ("gu", .zeroWholeOrOne),
   ("guw", .uniform), ("gv", .uniform), ("ha", .one), ("haw", .uniform), ("he", .hebrew),
   ("hi", .zeroWholeOrOne), ("hnj", .uniform), ("hr", .southSlavic), ("hsb", .sorbian),
   ("hu", .one), ("hy", .wholeZeroOrOne), ("ia", .oneWithoutFraction), ("id", .uniform),
   ("ig", .uniform), ("ii", .uniform), ("io", .uniform), ("is", .icelandic),
   ("it", .oneWithoutFractionAndMillions), ("iu", .uniform), ("ja", .uniform),
   ("jbo", .uniform), ("jgo", .uniform), ("jmc", .uniform), ("jv", .uniform),
   ("ka", .one), ("kab", .uniform), ("kaj", .uniform), ("kcg", .uniform),
   ("kde", .uniform), ("kea", .uniform), ("kk", .one), ("kkj", .uniform),
   ("kl", .uniform), ("km", .uniform), ("kn", .zeroWholeOrOne), ("ko", .uniform),
   ("ks", .one), ("ksb", .uniform), ("ksh", .zeroAndOne), ("ku", .one), ("kw", .uniform),
   ("ky", .one), ("lag", .uniform), ("lb", .one), ("lg", .uniform),
   ("lij", .oneWithoutFraction), ("lkt", .uniform),
   ("lld", .oneWithoutFractionAndMillions), ("ln", .uniform), ("lo", .uniform),
   ("lt", .lithuanian), ("lv", .latvian), ("mas", .uniform), ("mg", .uniform),
   ("mgo", .uniform), ("mk", .macedonian), ("ml", .one), ("mn", .one), ("mr", .one),
   ("ms", .uniform), ("mt", .maltese), ("my", .uniform), ("nah", .uniform),
   ("naq", .uniform), ("nb", .one), ("nd", .uniform), ("ne", .one),
   ("nl", .oneWithoutFraction), ("nn", .one), ("nnh", .uniform), ("no", .one),
   ("nqo", .uniform), ("nr", .uniform), ("nso", .zeroToOne), ("ny", .uniform),
   ("nyn", .uniform), ("om", .one), ("or", .one), ("os", .uniform), ("osa", .uniform),
   ("pa", .zeroToOne), ("pap", .uniform), ("pcm", .zeroWholeOrOne), ("pl", .polish),
   ("prg", .latvian), ("ps", .one), ("pt", .wholeZeroOrOneAndMillions), ("rm", .one),
   ("ro", .romanian), ("rof", .uniform), ("ru", .eastSlavic), ("rwk", .uniform),
   ("sah", .uniform), ("saq", .uniform), ("sat", .oneAndTwo),
   ("sc", .oneWithoutFraction), ("scn", .oneWithoutFractionAndMillions), ("sd", .one),
   ("sdh", .uniform), ("se", .uniform), ("seh", .uniform), ("ses", .uniform),
   ("sg", .uniform), ("shi", .uniform), ("si", .sinhala), ("sk", .westSlavic),
   ("sl", .slovenian), ("sma", .uniform), ("smi", .uniform), ("smj", .uniform),
   ("smn", .uniform), ("sms", .uniform), ("sn", .uniform), ("so", .one), ("sq", .one),
   ("sr", .southSlavic), ("ss", .uniform), ("ssy", .uniform), ("st", .one),
   ("su", .uniform), ("sv", .oneWithoutFraction), ("sw", .oneWithoutFraction),
   ("syr", .one), ("ta", .one), ("te", .one), ("teo", .uniform), ("th", .uniform),
   ("ti", .zeroToOne), ("tig", .uniform), ("tk", .one), ("tl", .uniform), ("tn", .one),
   ("to", .uniform), ("tpi", .uniform), ("tr", .one), ("ts", .uniform),
   ("tzm", .uniform), ("ug", .one), ("uk", .eastSlavic), ("ur", .oneWithoutFraction),
   ("uz", .one), ("ve", .uniform), ("vec", .oneWithoutFractionAndMillions),
   ("vi", .zeroWholeOrOne), ("vo", .uniform), ("vun", .uniform), ("wa", .uniform),
   ("wae", .uniform), ("wo", .uniform), ("xh", .one), ("xog", .uniform),
   ("yi", .uniform), ("yo", .uniform), ("yue", .uniform), ("zh", .uniform),
   ("zu", .zeroWholeOrOne)]

end PluralTemplate.Plural
