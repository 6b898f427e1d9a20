/-!
What the shop sells: tickets for sights and transport in eight countries and of eight categories.
The data only serves to make payloads look real.
-/

namespace ShopTraffic

structure Product where
  id : String
  name : String
  country : String
  category : String
  vendors : List String
  deriving DecidableEq, Repr, Inhabited

namespace Catalog

def countries : List String :=
  ["Hong Kong", "Taiwan", "Macau", "Singapore", "Malaysia", "Thailand", "UAE", "USA"]

def categories : List String :=
  ["attraction", "transport", "museum", "food", "tour", "show", "exhibition", "etc"]

def tickets : List Product :=
  [⟨"P001", "Hong Kong Disneyland", "Hong Kong", "attraction", ["VendorA", "VendorB", "VendorC"]⟩,
   ⟨"P002", "Cotai Water Jet", "Hong Kong", "transport", ["VendorA", "VendorC"]⟩,
   ⟨"P003", "Hong Kong TurboJET", "Hong Kong", "transport", ["VendorA", "VendorC"]⟩,
   ⟨"P004", "Peak Tram", "Hong Kong", "transport", ["VendorA", "VendorB"]⟩,
   ⟨"P005", "Ngong Ping Cable Car", "Hong Kong", "attraction", ["VendorA", "VendorB", "VendorC"]⟩,
   ⟨"P006", "Taiwan National Palace Museum", "Taiwan", "museum", ["VendorA", "VendorC"]⟩,
   ⟨"P007", "Din Tai Fung", "Taiwan", "food", ["VendorB", "VendorC"]⟩,
   ⟨"P008", "Taipei 101", "Taiwan", "attraction", ["VendorA", "VendorB"]⟩,
   ⟨"P009", "Easy SIM Card", "Taiwan", "etc", ["VendorC"]⟩,
   ⟨"P010", "Macau Open Top Bus", "Macau", "transport", ["VendorA", "VendorB"]⟩,
   ⟨"P011", "Macau Harry Potter Exhibition", "Macau", "exhibition", ["VendorA"]⟩,
   ⟨"P012", "Macau TurboJET", "Macau", "transport", ["VendorA", "VendorC"]⟩,
   ⟨"P013", "Macau Tower 360", "Macau", "attraction", ["VendorB", "VendorC"]⟩,
   ⟨"P014", "Macau Observation Deck", "Macau", "attraction", ["VendorA", "VendorB"]⟩,
   ⟨"P015", "Gardens by the Bay", "Singapore", "attraction", ["VendorA", "VendorB", "VendorC"]⟩,
   ⟨"P016", "Universal Studios Singapore", "Singapore", "attraction", ["VendorA", "VendorC"]⟩,
   ⟨"P017", "Wings of Time", "Singapore", "show", ["VendorA"]⟩,
   ⟨"P018", "Singapore Flyer", "Singapore", "attraction", ["VendorB"]⟩,
   ⟨"P019", "River Cruise", "Singapore", "tour", ["VendorA", "VendorC"]⟩,
   ⟨"P020", "Night Safari", "Singapore", "attraction", ["VendorA", "VendorB"]⟩,
   ⟨"P021", "Legoland", "Malaysia", "attraction", ["VendorA", "VendorC"]⟩,
   ⟨"P022", "SuperPark Malaysia", "Malaysia", "attraction", ["VendorB"]⟩,
   ⟨"P023", "5G SIM Card", "Malaysia", "etc", ["VendorC"]⟩,
   ⟨"P024", "Sunway Lagoon", "Malaysia", "attraction", ["VendorA", "VendorB"]⟩,
   ⟨"P025", "Sanctuary of Truth", "Thailand", "attraction", ["VendorA"]⟩,
   ⟨"P026", "Mahanakhon SkyWalk", "Thailand", "attraction", ["VendorA", "VendorB"]⟩,
   ⟨"P027", "Phuket Aquarium", "Thailand", "attraction", ["VendorC"]⟩,
   ⟨"P028", "Qasr Al Watan", "UAE", "attraction", ["VendorA", "VendorB"]⟩,
   ⟨"P029", "Ferrari World Abu Dhabi", "UAE", "attraction", ["VendorA", "VendorC"]⟩,
   ⟨"P030", "Louvre Abu Dhabi", "UAE", "museum", ["VendorB", "VendorC"]⟩,
   ⟨"P031", "Burj Khalifa", "UAE", "museum", ["VendorA", "VendorB", "VendorC"]⟩,
   ⟨"P032", "The View at The Palm", "UAE", "attraction", ["VendorA", "VendorC"]⟩,
   ⟨"P033", "Global Village Dubai", "UAE", "attraction", ["VendorB"]⟩,
   ⟨"P034", "American Museum of Natural History", "USA", "museum", ["VendorA"]⟩,
   ⟨"P035", "Disneyland California", "USA", "attraction", ["VendorA", "VendorC"]⟩,
   ⟨"P036", "LA Big Bus Tour", "USA", "tour", ["VendorB"]⟩,
   ⟨"P037", "MoMA Museum of Modern Art", "USA", "museum", ["VendorC"]⟩,
   ⟨"P038", "Top of the Rock", "USA", "attraction", ["VendorA", "VendorB"]⟩]

/-- The products shown at the top of the home page. -/
def homeExposure : List String :=
  ["Hong Kong Disneyland", "Universal Studios Singapore", "SuperPark Malaysia",
   "Ferrari World Abu Dhabi", "Disneyland California"]

/-- What visitors search for besides countries: names, parts of names, and words that match
nothing. -/
def searchWords : List String :=
  ["combo", "Hong Kong Disneyland", "Cotai Water Jet", "Hong Kong TurboJET", "Peak Tram",
   "Ngong Ping Cable Car", "Palace Museum", "Din Tai Fung", "Taipei 101", "Easy SIM Card",
   "Macau Open Top Bus", "Harry Potter", "Macau TurboJET", "Tower 360",
   "Macau Observation Deck", "Gardens by the Bay", "Universal Studios Singapore",
   "Wings of Time", "Singapore Flyer", "River Cruise", "Night Safari", "Legoland",
   "SuperPark Malaysia", "Sunway Lagoon", "5G SIM Card", "Sanctuary of Truth",
   "Mahanakhon SkyWalk", "Phuket Aquarium", "Qasr Al Watan", "Ferrari World Abu Dhabi",
   "Louvre Abu Dhabi", "Burj Khalifa", "The View at The Palm", "Global Village Dubai",
   "Natural History", "Disneyland California", "LA Big Bus", "MoMA", "Top of the Rock"]

def keywords : List String := countries ++ searchWords

end Catalog

end ShopTraffic
