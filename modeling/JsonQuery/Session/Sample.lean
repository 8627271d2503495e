import JsonQuery.Value.Basic

/-!
Sample queries for data of well-known shapes. A shape is recognised by the keys that the
first row has values for, and data of no known shape gets the samples for people.
-/

namespace JsonQuery

/-- A query offered with a name. -/
structure SampleQuery where
  name : String
  query : String
  deriving DecidableEq, Repr

/-- A family of data with sample queries of its own. -/
inductive SampleFamily where
  | users
  | posts
  | countries
  | currencies
  | launches
  | creatures
  deriving DecidableEq, Repr

namespace SampleFamily

/-- The name of a family. -/
def name : SampleFamily → String
  | .users => "users"
  | .posts => "posts"
  | .countries => "countries"
  | .currencies => "crypto"
  | .launches => "spacex"
  | .creatures => "pokemon"

/-- The sample queries of a family. -/
def samples : SampleFamily → List SampleQuery
  | .users => [
    ⟨"Select all users", "SELECT * FROM users"⟩,
    ⟨"Filter by department",
      "SELECT name, email, department FROM users WHERE department = " ++
      "'Engineering'"⟩,
    ⟨"Sort by salary", "SELECT name, salary FROM users ORDER BY salary DESC"⟩,
    ⟨"Count by department",
      "SELECT department, COUNT(*) as count FROM users GROUP BY department"⟩,
    ⟨"Average salary by city",
      "SELECT city, AVG(salary) as avg_salary FROM users GROUP BY city"⟩]
  | .posts => [
    ⟨"Select all posts", "SELECT * FROM posts"⟩,
    ⟨"Published posts only", "SELECT title, views, likes FROM posts WHERE published = true"⟩,
    ⟨"Top posts by views", "SELECT title, views FROM posts ORDER BY views DESC LIMIT 5"⟩,
    ⟨"Posts by user", "SELECT title, body FROM posts WHERE userId = 1"⟩]
  | .countries => [
    ⟨"Select all countries", "SELECT * FROM data"⟩,
    ⟨"Largest countries by area",
      "SELECT name_common, area FROM data ORDER BY area DESC LIMIT 10"⟩,
    ⟨"Countries by continent",
      "SELECT continents, COUNT(*) as count FROM data GROUP BY continents"⟩,
    ⟨"Most populous countries",
      "SELECT name_common, population FROM data ORDER BY population DESC " ++
      "LIMIT 20"⟩,
    ⟨"Countries in Europe",
      "SELECT name_common, capital FROM data WHERE continents LIKE " ++
      "'%Europe%'"⟩]
  | .currencies => [
    ⟨"Select all cryptocurrencies", "SELECT * FROM crypto"⟩,
    ⟨"Top by market cap",
      "SELECT name, current_price, market_cap FROM crypto ORDER BY " ++
      "market_cap DESC LIMIT 10"⟩]
  | .launches => [
    ⟨"All launches", "SELECT * FROM data"⟩,
    ⟨"Successful launches only",
      "SELECT mission_name, launch_date_utc, launch_success FROM data WHERE " ++
      "launch_success = true"⟩,
    ⟨"Recent launches",
      "SELECT mission_name, launch_date_utc, launch_success FROM data ORDER " ++
      "BY launch_date_utc DESC LIMIT 10"⟩,
    ⟨"Falcon Heavy launches",
      "SELECT mission_name, launch_date_utc, rocket_name FROM data WHERE " ++
      "rocket_name LIKE '%Falcon Heavy%'"⟩]
  | .creatures => [
    ⟨"All Pokemon", "SELECT * FROM data"⟩,
    ⟨"Top Pokemon by stats",
      "SELECT name, base_experience, height, weight FROM data ORDER BY " ++
      "base_experience DESC LIMIT 10"⟩,
    ⟨"Fire type Pokemon", "SELECT name, types FROM data WHERE types LIKE '%fire%'"⟩,
    ⟨"Pokemon with most HP",
      "SELECT name, stats_hp FROM data ORDER BY stats_hp DESC LIMIT 10"⟩]

/-- The keys that tell a family, in the order in which the families are tried. -/
def signatures : List (SampleFamily × List String) := [
  (.launches, ["mission_name", "launch_date_utc"]),
  (.creatures, ["name", "types", "base_experience"]),
  (.users, ["name", "email"]),
  (.posts, ["title", "body"]),
  (.countries, ["name", "population"]),
  (.countries, ["name_common", "population"]),
  (.currencies, ["name", "current_price"])]

/-- The family of data whose first row is given: the first one all of whose keys have a
value that counts as given. -/
def ofRow (row : Record) : SampleFamily :=
  match signatures.find? fun s => s.2.all fun key => (row.get key).isGiven with
  | some s => s.1
  | none => .users

end SampleFamily

end JsonQuery
