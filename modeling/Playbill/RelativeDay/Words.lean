import Playbill.Text.Basic
import Playbill.Text.WordChar

/-!
# Relative day words

A word list matches a text that is one of its words, or that holds one of them between word
boundaries.

* `DayWords`: a list of words in lower case.
* `DayWords.matchesText`: the two tests.
* `wordsForToday`, `wordsForTomorrow`, `wordsForDayAfter`: the built-in lists.
-/

namespace Playbill

/-- A list of words; all are in lower case. -/
structure DayWords where
  words : List Text

namespace DayWords

/-- A list of words in any case. -/
def ofList (words : List Text) : DayWords :=
  ⟨words.map Text.lower⟩

/-- A boundary lies between a word character and something that is none. -/
def isBoundary (before after : Option Char) : Bool :=
  before.any isWordChar != after.any isWordChar

/-- Passes over a word without regard to case: the character before the rest, and the rest. -/
def passWord? : Text → Option Char → Text → Option (Option Char × Text)
  | [], before, t => some (before, t)
  | _ :: _, _, [] => none
  | w :: word, _, c :: rest =>
    if foldChar w == foldChar c then passWord? word (some c) rest else none

/-- Whether a word stands between boundaries at the start of a text that follows a character. -/
def startsWithWord (before : Option Char) (t word : Text) : Bool :=
  isBoundary before t.head? &&
    match passWord? word before t with
    | some (last, rest) => isBoundary last rest.head?
    | none => false

/-- Whether some word of a list stands between boundaries in a text that follows a character. -/
def holdsWord (words : List Text) (before : Option Char) : Text → Bool
  | [] => words.any (startsWithWord before [])
  | c :: rest =>
    words.any (startsWithWord before (c :: rest)) || holdsWord words (some c) rest

/-- The words searched for.  A list without words is searched for as the empty word, which stands at
every boundary. -/
def searched (list : DayWords) : List Text :=
  if list.words.isEmpty then [[]] else list.words

/-- Whether a text is one of the words, blanks and case aside, or holds one of them. -/
def matchesText (list : DayWords) (t : Text) : Bool :=
  list.words.contains (Text.lower (Text.trim t)) || holdsWord list.searched none t

end DayWords

/-- The words between commas, without the blanks around them. -/
def wordList (t : String) : DayWords :=
  .ofList ((Text.pieces ',' t.toList).map Text.trim)

/-- Words for the present day. -/
def wordsForToday : DayWords := wordList
  "today, heute, aujourd'hui, aujourd’hui, hoy, oggi, vandaag, hoje, dzisiaj, dziś, dnes,
    idag, i dag, tänään, astăzi, azi, danes, danas, данас, днес, сегодня, сьогодні, σήμερα,
    bugün, šiandien, šodien, täna, tonight, ce soir, heute abend, vanavond, stasera,
    esta noche, hoje à noite, dzisiaj wieczorem, i kväll, i aften, tänä iltana, היום, اليوم,
    आज, hôm nay, วันนี้, 今日, 今天, 오늘, hari ini"

/-- Words for the following day. -/
def wordsForTomorrow : DayWords := wordList
  "tomorrow, morgen, demain, mañana, domani, amanhã, jutro, zítra, zajtra, imorgon,
    i morgen, huomenna, holnap, mâine, jutri, sutra, сутра, утре, завтра, αύριο, yarın,
    rytoj, rīt, מחר, غدا, غداً, कल, ngày mai, พรุ่งนี้, 明日, 明天, 내일, besok, bukas, kesho"

/-- Words for the day after the following one. -/
def wordsForDayAfter : DayWords := wordList
  "day after tomorrow, the day after tomorrow, übermorgen, après-demain, après demain,
    pasado mañana, dopodomani, overmorgen, depois de amanhã, pojutrze, pozítří, pozajtra,
    i övermorgon, i overmorgen, ylihuomenna, holnapután, poimâine, poimaine, pojutrišnjem,
    prekosutra, прекосутра, вдругиден, послезавтра, післязавтра, μεθαύριο, öbür gün,
    yarından sonra, poryt, parīt, ülehomme, מחרתיים, بعد غد, परसों, ngày kia, มะรืนนี้, 明後日,
    あさって, 后天, 後天, 모레, lusa, kesho kutwa"

end Playbill
