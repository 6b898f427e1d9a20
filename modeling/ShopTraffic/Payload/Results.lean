import ShopTraffic.Payload.Home

/-!
Payloads of the search results: the first page and the pages behind it. They all carry the keyword.
-/

namespace ShopTraffic

open ShopTraffic.Random

namespace Payload

def query (s : Session) : String × Json := ("query", .text s.keyword)

def searchSubmitted (s : Session) : Draw Part := do
  return {
    session := s
    members := [query s, ("page_index", .ofNat s.pageIndex.toNat), ("stay_sec", ← drawStay 1 10)] }

/-- A result of the first page is clicked: what the keyword leads to. -/
def resultClicked (s : Session) : Draw Part := do
  let (found, how) ← catalog.resolve s.keyword
  let known := [query s, ("search_type", .text how.name)]
  match found with
  | some p =>
    return {
      session := remember s p
      members := known ++ [("product_id", .text p.id), ("category", .text p.category),
        ("country", .text p.country)] }
  | none => return { session := s, members := known, unmatched := some s.keyword }

def resultsBack (s : Session) : Draw Part := do
  return {
    session := s
    members := [query s, ("exit_reason", .text "back_to_home"), ("stay_sec", ← drawStay 1 5)] }

def resultsExited (s : Session) : Draw Part := do
  return {
    session := s
    members := [query s, ("exit_reason", .text "search_exit"), ("stay_sec", ← drawStay 1 5)] }

/-- Every payload of a later page begins with the keyword and a time. -/
def drawLaterPage (s : Session) : Draw (List (String × Json)) := do
  return [query s, ("stay_sec", ← drawStay 10 40)]

def nextPageViewed (s : Session) : Draw Part := do
  let known ← drawLaterPage s
  let s := s.turnPage
  return {
    session := s
    members := known ++ [("page_index", .ofNat s.pageIndex.toNat),
      ("action", .text "scroll_next_page")] }

def laterResultClicked (s : Session) : Draw Part := do
  let known ← drawLaterPage s
  let (found, how) ← catalog.resolve s.keyword
  let known := known ++
    [("page_index", .ofNat s.pageIndex.toNat), ("search_type", .text how.name)]
  match found with
  | some p =>
    return {
      session := remember s p
      members := known ++ [("product_id", .text p.id), ("product_name", .text p.name),
        ("category", .text p.category), ("country", .text p.country)] }
  | none => return { session := s, members := known, unmatched := some s.keyword }

/-- The later time replaces the first one. -/
def laterPageBack (s : Session) : Draw Part := do
  let known ← drawLaterPage s
  return {
    session := s
    members := known ++ [("action", .text "back_button_click"), ("stay_sec", ← drawStay 2 60)] }

def laterPageExited (s : Session) : Draw Part := do
  let known ← drawLaterPage s
  return {
    session := s
    members := known ++ [("exit_reason", .text "user_left"),
      ("total_event_stay_sec", ← drawStay 10 50)] }

end Payload

end ShopTraffic
