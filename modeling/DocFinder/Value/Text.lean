import DocFinder.Value
import DocFinder.Number.Shortest
import DocFinder.Text.Integer
import DocFinder.Text.Quoted

namespace DocFinder.Value

def intText? (n : Int) : Option String :=
  let digits := Nat.toDigits 10 n.natAbs
  if digits.length > Text.longestNumeral then none
  else some (.ofList (if n < 0 then '-' :: digits else digits))

def durationText (minutes : Int) : String :=
  let days := minutes / 1440
  let seconds := minutes % 1440 * 60
  let parts :=
    (if days = 0 then [] else ["days=" ++ toString days]) ++
    (if seconds = 0 then [] else ["seconds=" ++ toString seconds])
  "datetime.timedelta(" ++ (if parts.isEmpty then "0" else ", ".intercalate parts) ++ ")"

def zoneText (offset : Int) : String :=
  if offset = 0 then "datetime.timezone.utc"
  else "datetime.timezone(" ++ durationText offset ++ ")"

def timeFields (time : DateTime) : List Nat :=
  [time.date.year, time.date.month, time.date.day, time.hour, time.minute] ++
    (if time.microsecond ≠ 0 then [time.second, time.microsecond]
     else if time.second ≠ 0 then [time.second] else [])

def bracketed (left right : String) (items : List String) : String :=
  left ++ ", ".intercalate items ++ right

mutual

def innerText? : Value → Option String
  | null => some "None"
  | bool b => some (if b then "True" else "False")
  | int n => intText? n
  | float x => some x.text
  | text s => some (Text.quote s)
  | bytes b => some (Text.quoteBytes b)
  | date d =>
    some (bracketed "datetime.date(" ")" ([d.year, d.month, d.day].map toString))
  | datetime t =>
    some (bracketed "datetime.datetime(" ")"
      ((timeFields t).map toString ++ (t.offset.map fun o => "tzinfo=" ++ zoneText o).toList))
  | list items => (innerTexts? items).map (bracketed "[" "]")
  | tuple [item] => (innerText? item).map fun s => "(" ++ s ++ ",)"
  | tuple items => (innerTexts? items).map (bracketed "(" ")")
  | set [] => some "set()"
  | set items => (innerTexts? items).map (bracketed "\x7b" "\x7d")
  | map entries => (entryTexts? entries).map (bracketed "\x7b" "\x7d")

def innerTexts? : List Value → Option (List String)
  | [] => some []
  | item :: rest => do return (← innerText? item) :: (← innerTexts? rest)

def entryTexts? : List (Value × Value) → Option (List String)
  | [] => some []
  | (key, value) :: rest => do
    return ((← innerText? key) ++ ": " ++ (← innerText? value)) :: (← entryTexts? rest)

end

def text? : Value → Option Written
  | text s => some s
  | date d => some d.text
  | datetime t => some t.text
  | value => (innerText? value).map .whole

end DocFinder.Value
