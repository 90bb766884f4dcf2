/-!
# Street types

The words for kinds of street that every lexicon starts from.
-/

namespace Gazetteer.Lexicon

/-- The words for kinds of street in common use. -/
def streetTypes : List String :=
  ["access", "alley", "amble", "approach", "arcade", "arterial", "avenue", "banan", "bank",
   "bay", "beach", "bend", "boardwalk", "boulevard", "boulevarde", "bowl", "brace", "brae",
   "break", "broadway", "brow", "busway", "bypass", "causeway", "centre", "centreway", "chase",
   "circle", "circuit", "circus", "close", "cluster", "common", "commons", "concord",
   "concourse", "connection", "copse", "corner", "corso", "course", "court", "courtyard",
   "cove", "crescent", "crest", "crief", "cross", "crossing", "cruiseway", "cul-de-sac",
   "cutting", "dale", "dash", "dell", "dene", "deviation", "dip", "distributor", "divide",
   "dock", "domain", "down", "drive", "driveway", "easement", "edge", "elbow", "end",
   "entrance", "esplanade", "estate", "expressway", "extension", "fairway", "fireline",
   "firetrack", "firetrail", "flat", "follow", "ford", "foreshore", "fork", "freeway",
   "frontage", "gap", "garden", "gardens", "gate", "gateway", "glade", "glen", "grange",
   "green", "grove", "gully", "harbour", "haven", "heath", "heights", "highway", "hill",
   "hollow", "hub", "island", "junction", "key", "keys", "landing", "lane", "laneway", "line",
   "link", "lookout", "loop", "lynne", "mall", "manor", "mead", "meander", "mews", "motorway",
   "nook", "north", "outlet", "outlook", "parade", "park", "parkway", "pass", "passage", "path",
   "pathway", "place", "plaza", "pocket", "point", "port", "precinct", "promenade", "pursuit",
   "quadrant", "quay", "quays", "ramble", "ramp", "reach", "reserve", "rest", "retreat",
   "return", "ride", "ridge", "rise", "rising", "river", "road", "roads", "round", "route",
   "row", "run", "serviceway", "slope", "spur", "square", "strait", "street", "strip", "subway",
   "tarn", "terrace", "throughway", "top", "tor", "track", "trail", "trunkway", "turn", "twist",
   "vale", "valley", "view", "views", "villa", "vista", "walk", "walkway", "waters", "waterway",
   "way", "wharf", "woods", "wynd"]

end Gazetteer.Lexicon
