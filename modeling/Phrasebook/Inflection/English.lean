import Phrasebook.Inflection.Rule

/-!
# English plurals and singulars
-/

namespace Phrasebook.Inflection

def words (ss : List Text) : List Shape := ss.map exactly

def uncountable : List Text := List.map String.toList [
  "accommodation", "adulthood", "advertising", "advice", "aggression", "aid", "air", "aircraft",
  "alcohol", "anger", "applause", "arithmetic", "assistance", "athletics", "bacon", "baggage",
  "beef", "biology", "blood", "botany", "bread", "butter", "carbon", "cardboard", "cash",
  "chalk", "chaos", "chess", "crossroads", "countryside", "dancing", "deer", "dignity", "dirt",
  "dust", "economics", "education", "electricity", "engineering", "enjoyment", "envy",
  "equipment", "ethics", "evidence", "evolution", "fame", "fiction", "flour", "flu", "food",
  "fuel", "fun", "furniture", "gallows", "garbage", "garlic", "genetics", "gold", "golf",
  "gossip", "grammar", "gratitude", "grief", "guilt", "gymnastics", "happiness", "hardware",
  "harm", "hate", "hatred", "health", "heat", "help", "homework", "honesty", "honey",
  "hospitality", "housework", "humour", "hunger", "hydrogen", "ice", "importance", "inflation",
  "information", "innocence", "iron", "irony", "jam", "jewelry", "judo", "karate", "knowledge",
  "lack", "laughter", "lava", "leather", "leisure", "lightning", "linguine", "linguini",
  "linguistics", "literature", "litter", "livestock", "logic", "loneliness", "luck", "luggage",
  "macaroni", "machinery", "magic", "management", "mankind", "marble", "mathematics",
  "mayonnaise", "measles", "methane", "milk", "money", "mud", "music", "mumps", "nature", "news",
  "nitrogen", "nonsense", "nurture", "nutrition", "obedience", "obesity", "oxygen", "pasta",
  "patience", "physics", "poetry", "pollution", "poverty", "pride", "psychology", "publicity",
  "punctuation", "quartz", "racism", "relaxation", "reliability", "research", "respect",
  "revenge", "rice", "rubbish", "rum", "safety", "scenery", "seafood", "seaside", "series",
  "shame", "sheep", "shopping", "sleep", "smoke", "smoking", "snow", "soap", "software", "soil",
  "spaghetti", "species", "steam", "stuff", "stupidity", "sunshine", "symmetry", "tennis",
  "thirst", "thunder", "timber", "traffic", "transportation", "trust", "underwear",
  "unemployment", "unity", "validity", "veal", "vegetation", "vegetarianism", "vengeance",
  "violence", "vitality", "warmth", "wealth", "weather", "welfare", "wheat", "wildlife",
  "wisdom", "yoga", "zinc", "zoology"]

/-- Singulars with their irregular plurals. -/
def irregular : List (Text × Text) := [
  ("ox", "oxen"), ("man", "men"), ("woman", "women"), ("die", "dice"), ("yes", "yeses"),
  ("foot", "feet"), ("eave", "eaves"), ("goose", "geese"), ("tooth", "teeth"), ("quiz", "quizzes")]

/-- The rules for plurals, the most general first. -/
def pluralRules : List Rule := [
  { stems := words [""], endings := words ["s"], replacement := "s" },
  { stems := [.except "aeiou" :: exactly "ese"], endings := words [""], replacement := "" },
  { stems := words ["ax", "test"], endings := words ["is"], replacement := "es" },
  { stems := [exactly "alias", .except "aou" :: exactly "us", exactly "tlas", exactly "gas",
    exactly "ris"], endings := words [""], replacement := "es" },
  { stems := [exactly "e" ++ (.among "mn" :: exactly "u")], endings := words ["s", ""],
    replacement := "s" },
  { stems := [.except "l" :: exactly "ias", .among "aeiou" :: exactly "las",
    .among "emjzr" :: exactly "as", .among "iu" :: exactly "am"], endings := words [""],
    replacement := "" },
  { stems := words ["alumn", "syllab", "octop", "vir", "radi", "nucle", "fung", "cact", "stimul",
    "termin", "bacill", "foc", "uter", "loc", "strat"], endings := words ["us", "i"],
    replacement := "i" },
  { stems := words ["alumn", "alg", "vertebr"], endings := words ["a", "ae"],
    replacement := "ae" },
  { stems := words ["seraph", "cherub"], endings := words ["im", ""], replacement := "im" },
  { stems := words ["her", "at", "gr"], endings := words ["o"], replacement := "oes" },
  { stems := words ["agend", "addend", "millenni", "dat", "extrem", "bacteri", "desiderat",
    "strat", "candelabr", "errat", "ov", "symposi", "curricul", "automat", "quor"],
    endings := words ["a", "um"], replacement := "a" },
  { stems := words ["apheli", "hyperbat", "periheli", "asyndet", "noumen", "phenomen", "criteri",
    "organ", "prolegomen", "hedr", "automat"], endings := words ["a", "on"], replacement := "a" },
  { stems := words [""], endings := words ["sis"], replacement := "ses" },
  { stems := words ["kni", "wi", "li"], endings := words ["fe"], replacement := "ves" },
  { stems := words ["ar", "l", "ea", "eo", "oa", "hoo"], endings := words ["f"],
    replacement := "ves" },
  { stems := [[.except "aeiouy"], exactly "qu"], endings := words ["y"], replacement := "ies" },
  { stems := [.except "ch" :: .among "ieo" :: [.among "ln"]], endings := words ["ey"],
    replacement := "ies" },
  { stems := words ["xes", "ches", "sses", "shes", "zzes"], endings := words [""],
    replacement := "" },
  { stems := words ["x", "ch", "ss", "sh", "zz"], endings := words [""], replacement := "es" },
  { stems := words ["matr", "cod", "mur", "sil", "vert", "ind", "append"], endings := words ["ix",
    "ex"], replacement := "ices" },
  { stems := words ["m", "l"], endings := words ["ice", "ouse"], replacement := "ice" },
  { stems := words ["pe"], endings := words ["rson", "ople"], replacement := "ople" },
  { stems := words ["child"], endings := words ["ren", ""], replacement := "ren" },
  { stems := words ["eaux"], endings := words [""], replacement := "" }]

/-- The rules for singulars, the most general first. -/
def singularRules : List Rule := [
  { stems := words [""], endings := words ["s"], replacement := "" },
  { stems := words ["ss"], endings := words [""], replacement := "" },
  { stems := words ["n"], endings := words ["ews"], replacement := "ews" },
  { stems := words ["o"], endings := words ["es"], replacement := "" },
  { stems := [[.among "ti"]], endings := words ["a"], replacement := "um" },
  { stems := words ["analy", "ba", "diagno", "parenthe", "progno", "synop", "the"],
    endings := words ["sis", "ses"], replacement := "sis" },
  { stems := words ["analy"], endings := words ["sis", "ses"], replacement := "sis",
    fromStart := true },
  { stems := [[.except "f"]], endings := words ["ves"], replacement := "fe" },
  { stems := words ["hive"], endings := words ["s"], replacement := "" },
  { stems := words ["tive"], endings := words ["s"], replacement := "" },
  { stems := [[.among "lr"]], endings := words ["ves"], replacement := "f" },
  { stems := [[.except "aeiouy"], exactly "qu"], endings := words ["ies"], replacement := "y" },
  { stems := words ["s"], endings := words ["eries"], replacement := "eries" },
  { stems := words ["m"], endings := words ["ovies"], replacement := "ovie" },
  { stems := words ["x", "ch", "ss", "sh"], endings := words ["es"], replacement := "" },
  { stems := words ["m", "l"], endings := words ["ice"], replacement := "ouse" },
  { stems := words ["bus"], endings := words ["es", ""], replacement := "" },
  { stems := words ["shoe"], endings := words ["s"], replacement := "" },
  { stems := words ["cris", "test"], endings := words ["is", "es"], replacement := "is" },
  { stems := words ["a"], endings := [exactly "x" ++ (.among "ie" :: exactly "s")],
    replacement := "xis", fromStart := true },
  { stems := words ["octop", "vir"], endings := words ["us", "i"], replacement := "us" },
  { stems := words ["alias", "status"], endings := words ["es", ""], replacement := "" },
  { stems := words ["ox"], endings := words ["en"], replacement := "", fromStart := true,
    toEnd := false },
  { stems := words ["vert", "ind"], endings := words ["ices"], replacement := "ex" },
  { stems := words ["matr"], endings := words ["ices"], replacement := "ix" },
  { stems := words ["quiz"], endings := words ["zes"], replacement := "" },
  { stems := words ["database"], endings := words ["s"], replacement := "" }]

/-- The word that the most special rule makes that matches. -/
def applyRules? (rules : List Rule) (word : Text) : Option Text :=
  rules.reverse.findSome? (·.inflect? word)

def plural (word : Text) : Text :=
  if uncountable.contains word then word
  else
    match irregular.find? (·.1 == word) with
    | some (_, plural) => plural
    | none => (applyRules? pluralRules word).getD (word ++ "s")

def singular (word : Text) : Text :=
  if uncountable.contains word then word
  else if word = "boxes" then "box"
  else
    match irregular.find? (·.2 == word) with
    | some (singular, _) => singular
    | none => (applyRules? singularRules word).getD word

/-- The form of a word for a count: the singular for one, the plural for any other. -/
def inflect (word : Text) (count : Int) : Text :=
  if count = 1 then singular word else plural word

end Phrasebook.Inflection
