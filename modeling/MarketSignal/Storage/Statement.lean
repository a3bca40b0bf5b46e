/-
The words in which a database is asked, with the values that go along with them.
-/
import MarketSignal.Storage.World

namespace MarketSignal

namespace Statement

/-- The words of a statement. -/
def words : Statement → String
  | .connect _ => "<connect>"
  | .createTable table =>
    "create table if not exists " ++ table ++
      " ( key text primary key, value json, updated_at timestamptz default now() );"
  | .selectValue table _ => "select value from " ++ table ++ " where key = %s limit 1;"
  | .insertValue table _ _ =>
    "insert into " ++ table ++
      " (key, value, updated_at) values (%s, %s, now()) on conflict (key) do update set " ++
      "value = excluded.value, updated_at = excluded.updated_at;"
  | .commit => "<commit>"
  | .close => "<close>"

/-- What goes along with the words: the address, or the values for the places in the words. -/
def values : Statement → Option Json
  | .connect url => some (.str url)
  | .createTable _ => some (.arr [])
  | .selectValue _ key => some (.arr [.str key])
  | .insertValue _ key value => some (.arr [.str key, value])
  | .commit => none
  | .close => none

end Statement

end MarketSignal
