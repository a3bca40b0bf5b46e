/-
The document that comes with the program. It seeds a library whose owner names no other source: one
scenario for a breakout upwards and one for a reversal downwards.
-/
import MarketSignal.Storage.Seed

namespace MarketSignal

namespace Packaged

/-- A choice of the document. -/
def choice (value label : String) (weight : Int) : Json :=
  .obj [("value", .str value), ("label", .str label), ("weight", .int weight)]

/-- A condition of the document that offers choices. -/
def choosing (label kind : String) (choices : List Json) : Json :=
  .obj
    [("label", .str label), ("type", .str kind), ("weight", .int 0), ("options", .arr choices)]

/-- A condition of the document that offers none. -/
def asking (label kind : String) (weight : Int) : Json :=
  .obj [("label", .str label), ("type", .str kind), ("weight", .int weight)]

/-- An outcome of the document. -/
def outcome (threshold : Int) (message kind : String) : Json :=
  .obj [("threshold", .int threshold), ("message", .str message), ("type", .str kind)]

/-- A scenario of the document. -/
def scenario (name : String) (conditions outcomes : List (String × Json)) : Json :=
  .obj [("name", .str name), ("conditions", .obj conditions), ("outputs", .obj outcomes)]

/-- The breakout upwards. -/
def breakout : Json :=
  scenario "Bullish Breakout"
    [("trend",
        choosing "Higher timeframe trend" "radio"
          [choice "up" "Up" 3, choice "sideways" "Sideways" 0, choice "down" "Down" (-3)]),
      ("resistanceBroken", asking "Price closed above resistance" "checkbox" 4),
      ("volume",
        choosing "Breakout volume" "select"
          [choice "high" "Above average" 2, choice "normal" "Average" 0,
            choice "low" "Below average" (-2)]),
      ("catalyst", asking "News catalyst" "text" 1)]
    [("strong", outcome 7 "Strong breakout, look for longs" "bullish"),
      ("weak", outcome 3 "Breakout forming, wait for confirmation" "neutral"),
      ("failed", outcome (-10) "Breakout failing" "bearish")]

/-- The reversal downwards. -/
def reversal : Json :=
  scenario "Bearish Reversal"
    [("divergence", asking "Bearish RSI divergence" "checkbox" 3),
      ("pattern",
        choosing "Reversal pattern" "select"
          [choice "doubleTop" "Double top" 3, choice "headShoulders" "Head and shoulders" 4,
            choice "none" "None" 0])]
    [("confirmed", outcome 5 "Reversal confirmed, look for shorts" "bearish"),
      ("watch", outcome 2 "Possible reversal" "neutral")]

/-- The document. -/
def document : Json :=
  .obj [("scenarios", .obj [("bullishBreakout", breakout), ("bearishReversal", reversal)])]

end Packaged

/-- The world in which the program starts: the document that comes with it is on the disk. -/
def World.atStart : World :=
  let data : Location := Disk.packageFolder ++ ["data"]
  let disk := Disk.fresh.put data .folder
  { World.fresh with
    disk := disk.put (data ++ ["scenarios.json"]) (.file Packaged.document.page.toUTF8) }

end MarketSignal
