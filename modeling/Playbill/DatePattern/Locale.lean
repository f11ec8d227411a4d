import Playbill.Text.Basic

/-!
# Locales

The names of months and weekdays and the shape of ordinal days in one language.

* `Locale`: the names; lists of months start with January, lists of weekdays with Monday.
* `Locale.all`: the built-in locales.
* `Locale.ofCode`: the locale of a code such as `de-AT`, English when the language is unknown.
-/

namespace Playbill

/-- How a language writes the day of a month as an ordinal. -/
inductive OrdinalStyle
  | english
  | dot
  | french
  | masculine
  | bare
  deriving DecidableEq

/-- The written ordinal of a day. -/
def OrdinalStyle.text (style : OrdinalStyle) (day : Nat) : Text :=
  match style with
  | .english =>
    let suffix : Text :=
      if 11 ≤ day % 100 ∧ day % 100 ≤ 13 then "th"
      else if day % 10 = 1 then "st"
      else if day % 10 = 2 then "nd"
      else if day % 10 = 3 then "rd"
      else "th"
    Text.ofNat day ++ suffix
  | .dot => Text.ofNat day ++ ['.']
  | .french => if day = 1 then "1er" else Text.ofNat day
  | .masculine => Text.ofNat day ++ ['º']
  | .bare => Text.ofNat day

/-- The month and weekday names of a language. -/
structure Locale where
  code : Text
  months : List Text
  monthsGenitive : Option (List Text)
  monthsShort : List Text
  weekdays : List Text
  weekdaysShort : List Text
  ordinal : OrdinalStyle

/-- The names written with spaces between them. -/
def names (t : String) : List Text :=
  Text.words t.toList

namespace Locale

/-- English. -/
def english : Locale where
  code := "en"
  months := names
    "January February March April May June July August September October November December"
  monthsGenitive := none
  monthsShort := names "Jan Feb Mar Apr May Jun Jul Aug Sep Oct Nov Dec"
  weekdays := names "Monday Tuesday Wednesday Thursday Friday Saturday Sunday"
  weekdaysShort := names "Mon Tue Wed Thu Fri Sat Sun"
  ordinal := .english

/-- German. -/
def german : Locale where
  code := "de"
  months := names
    "Januar Februar März April Mai Juni Juli August September Oktober November Dezember"
  monthsGenitive := none
  monthsShort := names "Jan Feb Mär Apr Mai Jun Jul Aug Sep Okt Nov Dez"
  weekdays := names "Montag Dienstag Mittwoch Donnerstag Freitag Samstag Sonntag"
  weekdaysShort := names "Mo Di Mi Do Fr Sa So"
  ordinal := .dot

/-- French. -/
def french : Locale where
  code := "fr"
  months := names
    "janvier février mars avril mai juin juillet août septembre octobre novembre décembre"
  monthsGenitive := none
  monthsShort := names "janv févr mars avr mai juin juil août sept oct nov déc"
  weekdays := names "lundi mardi mercredi jeudi vendredi samedi dimanche"
  weekdaysShort := names "lun mar mer jeu ven sam dim"
  ordinal := .french

/-- Spanish. -/
def spanish : Locale where
  code := "es"
  months := names
    "enero febrero marzo abril mayo junio julio agosto septiembre octubre noviembre diciembre"
  monthsGenitive := none
  monthsShort := names "ene feb mar abr may jun jul ago sep oct nov dic"
  weekdays := names "lunes martes miércoles jueves viernes sábado domingo"
  weekdaysShort := names "lun mar mié jue vie sáb dom"
  ordinal := .masculine

/-- Italian. -/
def italian : Locale where
  code := "it"
  months := names
    "gennaio febbraio marzo aprile maggio giugno luglio agosto settembre ottobre novembre dicembre"
  monthsGenitive := none
  monthsShort := names "gen feb mar apr mag giu lug ago set ott nov dic"
  weekdays := names "lunedì martedì mercoledì giovedì venerdì sabato domenica"
  weekdaysShort := names "lun mar mer gio ven sab dom"
  ordinal := .masculine

/-- Dutch. -/
def dutch : Locale where
  code := "nl"
  months := names
    "januari februari maart april mei juni juli augustus september oktober november december"
  monthsGenitive := none
  monthsShort := names "jan feb mrt apr mei jun jul aug sep okt nov dec"
  weekdays := names "maandag dinsdag woensdag donderdag vrijdag zaterdag zondag"
  weekdaysShort := names "ma di wo do vr za zo"
  ordinal := .bare

/-- Portuguese. -/
def portuguese : Locale where
  code := "pt"
  months := names
    "janeiro fevereiro março abril maio junho julho agosto setembro outubro novembro dezembro"
  monthsGenitive := none
  monthsShort := names "jan fev mar abr mai jun jul ago set out nov dez"
  weekdays := names
    "segunda-feira terça-feira quarta-feira quinta-feira sexta-feira sábado domingo"
  weekdaysShort := names "seg ter qua qui sex sáb dom"
  ordinal := .masculine

/-- Polish. -/
def polish : Locale where
  code := "pl"
  months := names
    "styczeń luty marzec kwiecień maj czerwiec lipiec sierpień wrzesień październik listopad
      grudzień"
  monthsGenitive := some (names
    "stycznia lutego marca kwietnia maja czerwca lipca sierpnia września października listopada
      grudnia")
  monthsShort := names "sty lut mar kwi maj cze lip sie wrz paź lis gru"
  weekdays := names "poniedziałek wtorek środa czwartek piątek sobota niedziela"
  weekdaysShort := names "pon wt śr czw pt sob nd"
  ordinal := .dot

/-- Czech. -/
def czech : Locale where
  code := "cs"
  months := names
    "leden únor březen duben květen červen červenec srpen září říjen listopad prosinec"
  monthsGenitive := some (names
    "ledna února března dubna května června července srpna září října listopadu prosince")
  monthsShort := names "led úno bře dub kvě čvn čvc srp zář říj lis pro"
  weekdays := names "pondělí úterý středa čtvrtek pátek sobota neděle"
  weekdaysShort := names "po út st čt pá so ne"
  ordinal := .dot

/-- Swedish. -/
def swedish : Locale where
  code := "sv"
  months := names
    "januari februari mars april maj juni juli augusti september oktober november december"
  monthsGenitive := none
  monthsShort := names "jan feb mar apr maj jun jul aug sep okt nov dec"
  weekdays := names "måndag tisdag onsdag torsdag fredag lördag söndag"
  weekdaysShort := names "mån tis ons tor fre lör sön"
  ordinal := .dot

/-- The built-in locales. -/
def all : List Locale :=
  [english, german, french, spanish, italian, dutch, portuguese, polish, czech, swedish]

/-- The language part of a locale code in lower case. -/
def language (code : Text) : Text :=
  Text.lower ((Text.piecesBy (fun c => c == '-' || c == '_') code).headD [])

/-- The locale of a code, by its language part; English when the language is unknown. -/
def ofCode (code : Text) : Locale :=
  (all.find? fun l => l.code == language code).getD english

end Locale

end Playbill
