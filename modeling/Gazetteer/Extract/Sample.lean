/-!
# The sample extract

Eleven rows around the places that the smoke tests ask for. The last one has no street name and
gives no address.
-/

namespace Gazetteer.Extract

/-- The rows of the sample, its header first. -/
def sampleRows : List String :=
  ["address_detail_pid,building_name,flat_type,flat_number,number_first,number_last,street_name,street_type_code,locality_name,state_abbreviation,postcode,latitude,longitude",
   "GAQLD155116960,,UNIT,45,15,,BREAKER,STREET,MAIN BEACH,QLD,4217,-27.97551,153.42712",
   "GAQLD155116961,,UNIT,46,15,,BREAKER,STREET,MAIN BEACH,QLD,4217,-27.97553,153.42714",
   "GAQLD155116962,,,,17,,BREAKER,STREET,MAIN BEACH,QLD,4217,-27.97570,153.42701",
   "GAQLD160000011,,,,11,,OYSTER COVE,PROMENADE,HELENSVALE,QLD,4212,-27.91102,153.33301",
   "GAQLD160000012,,,,12,,OYSTER COVE,PROMENADE,HELENSVALE,QLD,4212,-27.91121,153.33322",
   "GAQLD170000042,,,,42,,ANDREW CAMPBELL,DRIVE,NORTH LAKES,QLD,4509,-27.22403,153.01902",
   "GAQLD180000100,,,,100,,LOWER RED HILL,ROAD,WONDAI,QLD,4606,-26.31702,151.87204",
   "GAQLD190000007,,,,7,9,SMITH,STREET,SMITHFIELD,QLD,4878,-16.83701,145.68903",
   "GAQLD190000021,,SHOP,2,21,,SMITH,STREET,SMITHFIELD,QLD,4878,-16.83744,145.68851",
   "GAQLD200000009,OCEAN TOWER,UNIT,3,9,,OLD BURLEIGH,ROAD,BROADBEACH,QLD,4218,-28.03121,153.43312",
   "GAQLD999999999,,,,5,,,STREET,NOWHERE,QLD,4000,,"]

/-- **The sample extract** as text. -/
def sampleText : String :=
  String.join (sampleRows.map (· ++ "\n"))

end Gazetteer.Extract
