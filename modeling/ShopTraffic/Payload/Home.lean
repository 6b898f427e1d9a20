import ShopTraffic.Payload.Parts

/-!
Payloads of the home page and of the event pages behind it.
-/

namespace ShopTraffic

open ShopTraffic.Random

namespace Payload

def catalog : Catalog := Catalog.standard

def drawHomeStay : Draw Json := drawStay 5 180

/-- The home page is shown; what was browsed before no longer matters. -/
def homeViewed (s : Session) : Draw Part := do
  return {
    session := { s with pageType := "first_page", country := "", category := "" }
    members := [("page_type", .text "first_page"), ("stay_sec", ← drawHomeStay)] }

def eventPageOpened (s : Session) : Draw Part := do
  let pageType ← Draw.oneOf "special_event_category" ["recommend_category"]
  if pageType = "special_event_category" then
    let page ← Draw.oneOf "flight_promotion"
      ["referral_promotion", "continent_promotion", "season_promotion"]
    return {
      session := { s with pageType, eventPage := page }
      members := [("page_type", .text pageType), ("special_event_category", .text page),
        ("stay_sec", ← drawHomeStay)] }
  else
    return {
      session := { s with pageType, eventPage := "recommend_category" }
      members := [("page_type", .text pageType),
        ("recommend_category", .text "recommend_list_to_friends"), ("stay_sec", ← drawHomeStay)] }

def exposureClicked (s : Session) : Draw Part := do
  match ← catalog.drawHomeExposure with
  | some p =>
    return {
      session := remember s p
      members := [("product_id", .text p.id), ("product_name", .text p.name),
        ("category", .text p.category), ("country", .text p.country),
        ("stay_sec", ← drawHomeStay)] }
  | none => return { session := s, members := [("stay_sec", ← drawHomeStay)] }

def countryOpened (s : Session) : Draw Part := do
  let s := { s with pageType := "country_category" }
  let pageType : String × Json := ("page_type", .text s.pageType)
  let country := (← Draw.choose Catalog.countries).getD ""
  match ← catalog.drawByCountry country with
  | some p =>
    return {
      session := { remember s p with country, category := "" }
      members := [pageType, ("selected_country", .text country), ("product_id", .text p.id),
        ("product_name", .text p.name), ("category", .text p.category),
        ("recommend_category", .text "country_navigation_list"), ("stay_sec", ← drawHomeStay)] }
  | none => return { session := s, members := [pageType, ("stay_sec", ← drawHomeStay)] }

def categoryOpened (s : Session) : Draw Part := do
  let s := { s with pageType := "product_category" }
  let pageType : String × Json := ("page_type", .text s.pageType)
  let category := (← Draw.choose Catalog.categories).getD ""
  match ← catalog.drawByCategory category with
  | some p =>
    return {
      session := { remember s p with country := "", category }
      members := [pageType, ("selected_category", .text category), ("product_id", .text p.id),
        ("product_name", .text p.name), ("country", .text p.country),
        ("recommend_category", .text "category_navigation_list"), ("stay_sec", ← drawHomeStay)] }
  | none => return { session := s, members := [pageType, ("stay_sec", ← drawHomeStay)] }

def listOpened (s : Session) : Draw Part := do
  if (← Draw.oneOf "country_category" ["product_category"]) = "country_category" then
    countryOpened s
  else categoryOpened s

def homeLeft (s : Session) : Part :=
  { session := s, members := [("exit_reason", .text "user_left")] }

def eventPageBack (s : Session) : Draw Part := do
  return {
    session := s
    members := [("from_page", .text s.eventPage), ("to_page", .text "home"),
      ("action", .text "back_button_click"), ("stay_sec", ← drawStay 2 60)] }

def eventPageExited (s : Session) : Draw Part := do
  return {
    session := s
    members := [("last_viewed_page", .text s.eventPage), ("exit_reason", .text "user_left"),
      ("total_event_stay_sec", ← drawStay 10 50)] }

end Payload

end ShopTraffic
