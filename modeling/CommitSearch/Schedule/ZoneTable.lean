import CommitSearch.Schedule.YearlyRule

/-!
# Time zones by name

The zones of the time zone database with their offsets from UTC from the beginning of 2010 to the end
of 2099; changes before that time are left out. There are zones whose offset never changed in it,
zones that followed one yearly rule all along, and zones with changes of their own, with the rule that
followed them where there is one. Names are case-sensitive; several names can stand for one zone.
-/

namespace CommitSearch.Schedule

def fixedZones : List (Int × List String) :=
  [(-43200, ["Etc/GMT+12"]),
    (-39600, ["Etc/GMT+11", "Pacific/Midway", "Pacific/Niue", "Pacific/Pago_Pago", "Pacific/Samoa",
      "US/Samoa"]),
    (-36000, ["Etc/GMT+10", "HST", "Pacific/Honolulu", "Pacific/Johnston", "Pacific/Rarotonga",
      "Pacific/Tahiti", "US/Hawaii"]),
    (-34200, ["Pacific/Marquesas"]),
    (-32400, ["Etc/GMT+9", "Pacific/Gambier"]),
    (-28800, ["Etc/GMT+8", "Pacific/Pitcairn"]),
    (-25200, ["America/Creston", "America/Dawson_Creek", "America/Hermosillo", "America/Phoenix",
      "Etc/GMT+7", "MST", "US/Arizona"]),
    (-21600, ["America/Belize", "America/Costa_Rica", "America/El_Salvador", "America/Guatemala",
      "America/Managua", "America/Regina", "America/Swift_Current", "America/Tegucigalpa",
      "Canada/Saskatchewan", "Etc/GMT+6", "Pacific/Galapagos"]),
    (-18000, ["America/Atikokan", "America/Bogota", "America/Cayman", "America/Coral_Harbour",
      "America/Guayaquil", "America/Jamaica", "America/Lima", "America/Panama", "EST",
      "Etc/GMT+5", "Jamaica"]),
    (-14400, ["America/Anguilla", "America/Antigua", "America/Aruba", "America/Barbados",
      "America/Blanc-Sablon", "America/Boa_Vista", "America/Curacao", "America/Dominica",
      "America/Grenada", "America/Guadeloupe", "America/Guyana", "America/Kralendijk",
      "America/La_Paz", "America/Lower_Princes", "America/Manaus", "America/Marigot",
      "America/Martinique", "America/Montserrat", "America/Port_of_Spain", "America/Porto_Velho",
      "America/Puerto_Rico", "America/Santo_Domingo", "America/St_Barthelemy", "America/St_Kitts",
      "America/St_Lucia", "America/St_Thomas", "America/St_Vincent", "America/Tortola",
      "America/Virgin", "Brazil/West", "Etc/GMT+4"]),
    (-10800, ["America/Argentina/Buenos_Aires", "America/Argentina/Catamarca",
      "America/Argentina/ComodRivadavia", "America/Argentina/Cordoba", "America/Argentina/Jujuy",
      "America/Argentina/La_Rioja", "America/Argentina/Mendoza", "America/Argentina/Rio_Gallegos",
      "America/Argentina/Salta", "America/Argentina/San_Juan", "America/Argentina/San_Luis",
      "America/Argentina/Tucuman", "America/Argentina/Ushuaia", "America/Belem",
      "America/Buenos_Aires", "America/Catamarca", "America/Cayenne", "America/Cordoba",
      "America/Fortaleza", "America/Jujuy", "America/Maceio", "America/Mendoza",
      "America/Paramaribo", "America/Recife", "America/Rosario", "America/Santarem",
      "Antarctica/Rothera", "Etc/GMT+3"]),
    (-7200, ["America/Noronha", "Atlantic/South_Georgia", "Brazil/DeNoronha", "Etc/GMT+2"]),
    (-3600, ["Atlantic/Cape_Verde", "Etc/GMT+1"]),
    (0, ["Africa/Abidjan", "Africa/Accra", "Africa/Bamako", "Africa/Banjul", "Africa/Bissau",
      "Africa/Conakry", "Africa/Dakar", "Africa/Freetown", "Africa/Lome", "Africa/Monrovia",
      "Africa/Nouakchott", "Africa/Ouagadougou", "Africa/Timbuktu", "America/Danmarkshavn",
      "Atlantic/Reykjavik", "Atlantic/St_Helena", "Etc/GMT", "Etc/GMT+0", "Etc/GMT-0", "Etc/GMT0",
      "Etc/Greenwich", "Etc/UCT", "Etc/UTC", "Etc/Universal", "Etc/Zulu", "GMT", "GMT+0", "GMT-0",
      "GMT0", "Greenwich", "Iceland", "UCT", "UTC", "Universal", "Zulu"]),
    (3600, ["Africa/Algiers", "Africa/Bangui", "Africa/Brazzaville", "Africa/Douala", "Africa/Kinshasa",
      "Africa/Lagos", "Africa/Libreville", "Africa/Luanda", "Africa/Malabo", "Africa/Ndjamena",
      "Africa/Niamey", "Africa/Porto-Novo", "Africa/Tunis", "Etc/GMT-1"]),
    (7200, ["Africa/Blantyre", "Africa/Bujumbura", "Africa/Gaborone", "Africa/Harare",
      "Africa/Johannesburg", "Africa/Kigali", "Africa/Lubumbashi", "Africa/Lusaka",
      "Africa/Maputo", "Africa/Maseru", "Africa/Mbabane", "Etc/GMT-2"]),
    (10800, ["Africa/Addis_Ababa", "Africa/Asmara", "Africa/Asmera", "Africa/Dar_es_Salaam",
      "Africa/Djibouti", "Africa/Kampala", "Africa/Mogadishu", "Africa/Nairobi",
      "Antarctica/Syowa", "Asia/Aden", "Asia/Baghdad", "Asia/Bahrain", "Asia/Kuwait",
      "Asia/Qatar", "Asia/Riyadh", "Etc/GMT-3", "Indian/Antananarivo", "Indian/Comoro",
      "Indian/Mayotte"]),
    (14400, ["Asia/Dubai", "Asia/Muscat", "Asia/Tbilisi", "Etc/GMT-4", "Indian/Mahe", "Indian/Mauritius",
      "Indian/Reunion"]),
    (16200, ["Asia/Kabul"]),
    (18000, ["Antarctica/Mawson", "Asia/Aqtau", "Asia/Aqtobe", "Asia/Ashgabat", "Asia/Ashkhabad",
      "Asia/Atyrau", "Asia/Dushanbe", "Asia/Karachi", "Asia/Oral", "Asia/Samarkand",
      "Asia/Tashkent", "Etc/GMT-5", "Indian/Kerguelen", "Indian/Maldives"]),
    (19800, ["Asia/Calcutta", "Asia/Colombo", "Asia/Kolkata"]),
    (20700, ["Asia/Kathmandu", "Asia/Katmandu"]),
    (21600, ["Asia/Bishkek", "Asia/Dacca", "Asia/Dhaka", "Asia/Kashgar", "Asia/Thimbu", "Asia/Thimphu",
      "Asia/Urumqi", "Etc/GMT-6", "Indian/Chagos"]),
    (23400, ["Asia/Rangoon", "Asia/Yangon", "Indian/Cocos"]),
    (25200, ["Asia/Bangkok", "Asia/Ho_Chi_Minh", "Asia/Jakarta", "Asia/Phnom_Penh", "Asia/Pontianak",
      "Asia/Saigon", "Asia/Vientiane", "Etc/GMT-7", "Indian/Christmas"]),
    (28800, ["Asia/Brunei", "Asia/Chongqing", "Asia/Chungking", "Asia/Harbin", "Asia/Hong_Kong",
      "Asia/Kuala_Lumpur", "Asia/Kuching", "Asia/Macao", "Asia/Macau", "Asia/Makassar",
      "Asia/Manila", "Asia/Shanghai", "Asia/Singapore", "Asia/Taipei", "Asia/Ujung_Pandang",
      "Australia/Perth", "Australia/West", "Etc/GMT-8", "Hongkong", "PRC", "ROC", "Singapore"]),
    (31500, ["Australia/Eucla"]),
    (32400, ["Asia/Dili", "Asia/Jayapura", "Asia/Seoul", "Asia/Tokyo", "Etc/GMT-9", "Japan",
      "Pacific/Palau", "ROK"]),
    (34200, ["Australia/Darwin", "Australia/North"]),
    (36000, ["Antarctica/DumontDUrville", "Australia/Brisbane", "Australia/Lindeman",
      "Australia/Queensland", "Etc/GMT-10", "Pacific/Chuuk", "Pacific/Guam",
      "Pacific/Port_Moresby", "Pacific/Saipan", "Pacific/Truk", "Pacific/Yap"]),
    (39600, ["Etc/GMT-11", "Pacific/Efate", "Pacific/Guadalcanal", "Pacific/Kosrae", "Pacific/Noumea",
      "Pacific/Pohnpei", "Pacific/Ponape"]),
    (43200, ["Etc/GMT-12", "Kwajalein", "Pacific/Funafuti", "Pacific/Kwajalein", "Pacific/Majuro",
      "Pacific/Nauru", "Pacific/Tarawa", "Pacific/Wake", "Pacific/Wallis"]),
    (46800, ["Etc/GMT-13", "Pacific/Enderbury", "Pacific/Kanton"]),
    (50400, ["Etc/GMT-14", "Pacific/Kiritimati"])]

def yearlyZones : List (YearlyRule × List String) :=
  [(⟨2010, -36000, -32400, ⟨3, 2, 0, 7200⟩, ⟨11, 1, 0, 7200⟩⟩,
      ["America/Adak", "America/Atka", "US/Aleutian"]),
    (⟨2010, -32400, -28800, ⟨3, 2, 0, 7200⟩, ⟨11, 1, 0, 7200⟩⟩,
      ["America/Anchorage", "America/Juneau", "America/Nome", "America/Sitka", "America/Yakutat",
        "US/Alaska"]),
    (⟨2010, -28800, -25200, ⟨3, 2, 0, 7200⟩, ⟨11, 1, 0, 7200⟩⟩,
      ["America/Ensenada", "America/Los_Angeles", "America/Santa_Isabel", "America/Tijuana",
        "America/Vancouver", "Canada/Pacific", "Mexico/BajaNorte", "PST8PDT", "US/Pacific"]),
    (⟨2010, -25200, -21600, ⟨3, 2, 0, 7200⟩, ⟨11, 1, 0, 7200⟩⟩,
      ["America/Boise", "America/Cambridge_Bay", "America/Denver", "America/Edmonton",
        "America/Inuvik", "America/Shiprock", "America/Yellowknife", "Canada/Mountain", "MST7MDT",
        "Navajo", "US/Mountain"]),
    (⟨2010, -21600, -18000, ⟨3, 2, 0, 7200⟩, ⟨11, 1, 0, 7200⟩⟩,
      ["America/Chicago", "America/Indiana/Knox", "America/Indiana/Tell_City", "America/Knox_IN",
        "America/Matamoros", "America/Menominee", "America/North_Dakota/Center",
        "America/North_Dakota/New_Salem", "America/Rainy_River", "America/Rankin_Inlet",
        "America/Resolute", "America/Winnipeg", "CST6CDT", "Canada/Central", "US/Central",
        "US/Indiana-Starke"]),
    (⟨2010, -18000, -14400, ⟨3, 2, 0, 7200⟩, ⟨11, 1, 0, 7200⟩⟩,
      ["America/Detroit", "America/Fort_Wayne", "America/Indiana/Indianapolis",
        "America/Indiana/Marengo", "America/Indiana/Petersburg", "America/Indiana/Vevay",
        "America/Indiana/Vincennes", "America/Indiana/Winamac", "America/Indianapolis",
        "America/Iqaluit", "America/Kentucky/Louisville", "America/Kentucky/Monticello",
        "America/Louisville", "America/Montreal", "America/Nassau", "America/New_York",
        "America/Nipigon", "America/Pangnirtung", "America/Thunder_Bay", "America/Toronto",
        "Canada/Eastern", "EST5EDT", "US/East-Indiana", "US/Eastern", "US/Michigan"]),
    (⟨2010, -14400, -10800, ⟨3, 2, 0, 7200⟩, ⟨11, 1, 0, 7200⟩⟩,
      ["America/Glace_Bay", "America/Halifax", "America/Moncton", "America/Thule",
        "Atlantic/Bermuda", "Canada/Atlantic"]),
    (⟨2010, -10800, -7200, ⟨3, 2, 0, 7200⟩, ⟨11, 1, 0, 7200⟩⟩,
      ["America/Miquelon"]),
    (⟨2010, -3600, 0, ⟨3, 5, 0, 0⟩, ⟨10, 5, 0, 3600⟩⟩,
      ["Atlantic/Azores"]),
    (⟨2010, 0, 7200, ⟨3, 5, 0, 3600⟩, ⟨10, 5, 0, 10800⟩⟩,
      ["Antarctica/Troll"]),
    (⟨2010, 0, 3600, ⟨3, 5, 0, 3600⟩, ⟨10, 5, 0, 7200⟩⟩,
      ["Atlantic/Canary", "Atlantic/Faeroe", "Atlantic/Faroe", "Atlantic/Madeira", "Eire",
        "Europe/Belfast", "Europe/Dublin", "Europe/Guernsey", "Europe/Isle_of_Man",
        "Europe/Jersey", "Europe/Lisbon", "Europe/London", "GB", "GB-Eire", "Portugal", "WET"]),
    (⟨2010, 3600, 7200, ⟨3, 5, 0, 7200⟩, ⟨10, 5, 0, 10800⟩⟩,
      ["Africa/Ceuta", "Arctic/Longyearbyen", "Atlantic/Jan_Mayen", "CET", "Europe/Amsterdam",
        "Europe/Andorra", "Europe/Belgrade", "Europe/Berlin", "Europe/Bratislava",
        "Europe/Brussels", "Europe/Budapest", "Europe/Busingen", "Europe/Copenhagen",
        "Europe/Gibraltar", "Europe/Ljubljana", "Europe/Luxembourg", "Europe/Madrid",
        "Europe/Malta", "Europe/Monaco", "Europe/Oslo", "Europe/Paris", "Europe/Podgorica",
        "Europe/Prague", "Europe/Rome", "Europe/San_Marino", "Europe/Sarajevo", "Europe/Skopje",
        "Europe/Stockholm", "Europe/Tirane", "Europe/Vaduz", "Europe/Vatican", "Europe/Vienna",
        "Europe/Warsaw", "Europe/Zagreb", "Europe/Zurich", "MET", "Poland"]),
    (⟨2010, 7200, 10800, ⟨3, 5, 0, 0⟩, ⟨10, 5, 0, 0⟩⟩,
      ["Asia/Beirut"]),
    (⟨2010, 7200, 10800, ⟨3, 5, 0, 10800⟩, ⟨10, 5, 0, 14400⟩⟩,
      ["Asia/Nicosia", "EET", "Europe/Athens", "Europe/Bucharest", "Europe/Helsinki",
        "Europe/Kiev", "Europe/Kyiv", "Europe/Mariehamn", "Europe/Nicosia", "Europe/Riga",
        "Europe/Sofia", "Europe/Tallinn", "Europe/Uzhgorod", "Europe/Vilnius", "Europe/Zaporozhye"]),
    (⟨2010, 34200, 37800, ⟨10, 1, 0, 7200⟩, ⟨4, 1, 0, 10800⟩⟩,
      ["Australia/Adelaide", "Australia/Broken_Hill", "Australia/South", "Australia/Yancowinna"]),
    (⟨2011, 36000, 39600, ⟨10, 1, 0, 7200⟩, ⟨4, 1, 0, 10800⟩⟩,
      ["Antarctica/Macquarie"]),
    (⟨2010, 36000, 39600, ⟨10, 1, 0, 7200⟩, ⟨4, 1, 0, 10800⟩⟩,
      ["Australia/ACT", "Australia/Canberra", "Australia/Currie", "Australia/Hobart",
        "Australia/Melbourne", "Australia/NSW", "Australia/Sydney", "Australia/Tasmania",
        "Australia/Victoria"]),
    (⟨2010, 37800, 39600, ⟨10, 1, 0, 7200⟩, ⟨4, 1, 0, 7200⟩⟩,
      ["Australia/LHI", "Australia/Lord_Howe"]),
    (⟨2010, 43200, 46800, ⟨9, 5, 0, 7200⟩, ⟨4, 1, 0, 10800⟩⟩,
      ["Antarctica/McMurdo", "Antarctica/South_Pole", "NZ", "Pacific/Auckland"]),
    (⟨2010, 45900, 49500, ⟨9, 5, 0, 9900⟩, ⟨4, 1, 0, 13500⟩⟩,
      ["NZ-CHAT", "Pacific/Chatham"])]

def africanZones : List ChangedZone :=
  [⟨7200,
      [(1272578400, 10800), (1281474000, 7200), (1284069600, 10800), (1285880400, 7200),
        (1400191200, 10800), (1403816400, 7200), (1406844000, 10800), (1411678800, 7200)],
      some ⟨2023, 7200, 10800, ⟨4, 5, 5, 0⟩, ⟨10, 5, 4, 86400⟩⟩,
      ["Africa/Cairo", "Egypt"]⟩,
    ⟨0,
      [(1272758400, 3600), (1281222000, 0), (1301788800, 3600), (1312066800, 0),
        (1335664800, 3600), (1342749600, 0), (1345428000, 3600), (1348970400, 0),
        (1367114400, 3600), (1373162400, 0), (1376100000, 3600), (1382839200, 0),
        (1396144800, 3600), (1403920800, 0), (1406944800, 3600), (1414288800, 0),
        (1427594400, 3600), (1434247200, 0), (1437271200, 3600), (1445738400, 0),
        (1459044000, 3600), (1465092000, 0), (1468116000, 3600), (1477792800, 0),
        (1490493600, 3600), (1495332000, 0), (1498960800, 3600), (1509242400, 0),
        (1521943200, 3600), (1526176800, 0), (1529200800, 3600), (1557021600, 0),
        (1560045600, 3600), (1587261600, 0), (1590890400, 3600), (1618106400, 0),
        (1621130400, 3600), (1648346400, 0), (1651975200, 3600), (1679191200, 0),
        (1682215200, 3600), (1710036000, 0), (1713060000, 3600), (1740276000, 0),
        (1743904800, 3600), (1771120800, 0), (1774144800, 3600), (1801965600, 0),
        (1804989600, 3600), (1832205600, 0), (1835834400, 3600), (1863050400, 0),
        (1866074400, 3600), (1893290400, 0), (1896919200, 3600), (1924135200, 0),
        (1927159200, 3600), (1954980000, 0), (1958004000, 3600), (1985220000, 0),
        (1988848800, 3600), (2016064800, 0), (2019088800, 3600), (2046304800, 0),
        (2049933600, 3600), (2077149600, 0), (2080778400, 3600), (2107994400, 0),
        (2111018400, 3600), (2138234400, 0), (2141863200, 3600), (2169079200, 0),
        (2172103200, 3600), (2199924000, 0), (2202948000, 3600), (2230164000, 0),
        (2233792800, 3600), (2261008800, 0), (2264032800, 3600), (2291248800, 0),
        (2294877600, 3600), (2322093600, 0), (2325722400, 3600), (2352938400, 0),
        (2355962400, 3600), (2383178400, 0), (2386807200, 3600), (2414023200, 0),
        (2417047200, 3600), (2444868000, 0), (2447892000, 3600), (2475108000, 0),
        (2478736800, 3600), (2505952800, 0), (2508976800, 3600), (2536192800, 0),
        (2539821600, 3600), (2567037600, 0), (2570666400, 3600), (2597882400, 0),
        (2600906400, 3600), (2628122400, 0), (2631751200, 3600), (2658967200, 0),
        (2661991200, 3600), (2689812000, 0), (2692836000, 3600), (2720052000, 0),
        (2723680800, 3600), (2750896800, 0), (2753920800, 3600), (2781136800, 0),
        (2784765600, 3600), (2811981600, 0), (2815610400, 3600), (2842826400, 0),
        (2845850400, 3600), (2873066400, 0), (2876695200, 3600), (2903911200, 0),
        (2906935200, 3600), (2934756000, 0), (2937780000, 3600), (2964996000, 0),
        (2968624800, 3600), (2995840800, 0), (2998864800, 3600), (3026080800, 0),
        (3029709600, 3600), (3056925600, 0), (3060554400, 3600), (3087770400, 0),
        (3090794400, 3600), (3118010400, 0), (3121639200, 3600), (3148855200, 0),
        (3151879200, 3600), (3179700000, 0), (3182724000, 3600), (3209940000, 0),
        (3213568800, 3600), (3240784800, 0), (3243808800, 3600), (3271024800, 0),
        (3274653600, 3600), (3301869600, 0), (3305498400, 3600), (3332714400, 0),
        (3335738400, 3600), (3362954400, 0), (3366583200, 3600), (3393799200, 0),
        (3396823200, 3600), (3424644000, 0), (3427668000, 3600), (3454884000, 0),
        (3458512800, 3600), (3485728800, 0), (3488752800, 3600), (3515968800, 0),
        (3519597600, 3600), (3546813600, 0), (3549837600, 3600), (3577658400, 0),
        (3580682400, 3600), (3607898400, 0), (3611527200, 3600), (3638743200, 0),
        (3641767200, 3600), (3669588000, 0), (3672612000, 3600), (3699828000, 0),
        (3703456800, 3600)],
      none,
      ["Africa/Casablanca", "Africa/El_Aaiun"]⟩,
    ⟨10800,
      [(1612126800, 7200)],
      none,
      ["Africa/Juba"]⟩,
    ⟨10800,
      [(1509483600, 7200)],
      none,
      ["Africa/Khartoum"]⟩,
    ⟨0,
      [(1514768400, 3600), (1546304400, 0)],
      none,
      ["Africa/Sao_Tome"]⟩,
    ⟨7200,
      [(1352505600, 3600), (1364515200, 7200)],
      none,
      ["Africa/Tripoli", "Libya"]⟩,
    ⟨7200,
      [(1270339200, 3600), (1283648400, 7200), (1301788800, 3600), (1315098000, 7200),
        (1333238400, 3600), (1346547600, 7200), (1365292800, 3600), (1377997200, 7200),
        (1396742400, 3600), (1410051600, 7200), (1428192000, 3600), (1441501200, 7200),
        (1459641600, 3600), (1472950800, 7200), (1491091200, 3600), (1504400400, 7200)],
      none,
      ["Africa/Windhoek"]⟩]

def americanZones : List ChangedZone :=
  [⟨-10800,
      [(1350788400, -7200), (1361066400, -10800)],
      none,
      ["America/Araguaina"]⟩,
    ⟨-10800,
      [(1270954800, -14400), (1286078400, -10800), (1302404400, -14400), (1317528000, -10800),
        (1333854000, -14400), (1349582400, -10800), (1364094000, -14400), (1381032000, -10800),
        (1395543600, -14400), (1412481600, -10800), (1426993200, -14400), (1443931200, -10800),
        (1459047600, -14400), (1475380800, -10800), (1490497200, -14400), (1506830400, -10800),
        (1521946800, -14400), (1538884800, -10800), (1553396400, -14400), (1570334400, -10800),
        (1584846000, -14400), (1601784000, -10800), (1616900400, -14400), (1633233600, -10800),
        (1648350000, -14400), (1664683200, -10800), (1679799600, -14400), (1696132800, -10800),
        (1711249200, -14400), (1728187200, -10800)],
      none,
      ["America/Asuncion"]⟩,
    ⟨-10800,
      [(1318734000, -7200), (1330221600, -10800)],
      none,
      ["America/Bahia"]⟩,
    ⟨-25200,
      [(1270371600, -18000), (1288508400, -21600), (1301817600, -18000), (1319958000, -21600),
        (1333267200, -18000), (1351407600, -21600), (1365321600, -18000), (1382857200, -21600),
        (1396771200, -18000), (1414306800, -21600), (1428220800, -18000), (1445756400, -21600),
        (1459670400, -18000), (1477810800, -21600), (1491120000, -18000), (1509260400, -21600),
        (1522569600, -18000), (1540710000, -21600), (1554624000, -18000), (1572159600, -21600),
        (1586073600, -18000), (1603609200, -21600), (1617523200, -18000), (1635663600, -21600),
        (1648972800, -18000), (1667113200, -21600)],
      none,
      ["America/Bahia_Banderas"]⟩,
    ⟨-10800,
      [(1266721200, -14400), (1287288000, -10800), (1298170800, -14400), (1318737600, -10800),
        (1330225200, -14400), (1350792000, -10800), (1361070000, -14400), (1382241600, -10800),
        (1392519600, -14400), (1413691200, -10800), (1424574000, -14400), (1445140800, -10800),
        (1456023600, -14400), (1476590400, -10800), (1487473200, -14400), (1508040000, -10800),
        (1518922800, -14400), (1541304000, -10800), (1550372400, -14400)],
      none,
      ["America/Campo_Grande", "America/Cuiaba"]⟩,
    ⟨-21600,
      [(1270368000, -18000), (1288508400, -21600), (1301817600, -18000), (1319958000, -21600),
        (1333267200, -18000), (1351407600, -21600), (1365321600, -18000), (1382857200, -21600),
        (1396771200, -18000), (1414306800, -21600), (1422777600, -18000)],
      none,
      ["America/Cancun"]⟩,
    ⟨-16200,
      [(1462086000, -14400)],
      none,
      ["America/Caracas"]⟩,
    ⟨-25200,
      [(1270371600, -21600), (1288512000, -25200), (1301821200, -21600), (1319961600, -25200),
        (1333270800, -21600), (1351411200, -25200), (1365325200, -21600), (1382860800, -25200),
        (1396774800, -21600), (1414310400, -25200), (1428224400, -21600), (1445760000, -25200),
        (1459674000, -21600), (1477814400, -25200), (1491123600, -21600), (1509264000, -25200),
        (1522573200, -21600), (1540713600, -25200), (1554627600, -21600), (1572163200, -25200),
        (1586077200, -21600), (1603612800, -25200), (1617526800, -21600), (1635667200, -25200),
        (1648976400, -21600)],
      none,
      ["America/Chihuahua"]⟩,
    ⟨-25200,
      [(1268557200, -21600), (1289116800, -25200), (1300006800, -21600), (1320566400, -25200),
        (1331456400, -21600), (1352016000, -25200), (1362906000, -21600), (1383465600, -25200),
        (1394355600, -21600), (1414915200, -25200), (1425805200, -21600), (1446364800, -25200),
        (1457859600, -21600), (1478419200, -25200), (1489309200, -21600), (1509868800, -25200),
        (1520758800, -21600), (1541318400, -25200), (1552208400, -21600), (1572768000, -25200),
        (1583658000, -21600), (1604217600, -25200), (1615712400, -21600), (1636272000, -25200),
        (1647162000, -21600), (1669788000, -25200)],
      some ⟨2023, -25200, -21600, ⟨3, 2, 0, 7200⟩, ⟨11, 1, 0, 7200⟩⟩,
      ["America/Ciudad_Juarez"]⟩,
    ⟨-10800,
      [(1270350000, -14400), (1286683200, -10800), (1304823600, -14400), (1313899200, -10800),
        (1335668400, -14400), (1346558400, -10800), (1367118000, -14400), (1378612800, -10800),
        (1398567600, -14400), (1410062400, -10800), (1463281200, -14400), (1471147200, -10800),
        (1494730800, -14400), (1502596800, -10800), (1526180400, -14400), (1534046400, -10800),
        (1554606000, -14400), (1567915200, -10800), (1586055600, -14400), (1599364800, -10800),
        (1617505200, -14400), (1630814400, -10800), (1648954800, -14400), (1662868800, -10800),
        (1680404400, -14400), (1693713600, -10800), (1712458800, -14400), (1725768000, -10800)],
      none,
      ["America/Coyhaique"]⟩,
    ⟨-28800,
      [(1268560800, -25200), (1289120400, -28800), (1300010400, -25200), (1320570000, -28800),
        (1331460000, -25200), (1352019600, -28800), (1362909600, -25200), (1383469200, -28800),
        (1394359200, -25200), (1414918800, -28800), (1425808800, -25200), (1446368400, -28800),
        (1457863200, -25200), (1478422800, -28800), (1489312800, -25200), (1509872400, -28800),
        (1520762400, -25200), (1541322000, -28800), (1552212000, -25200), (1572771600, -28800),
        (1583661600, -25200)],
      none,
      ["America/Dawson", "America/Whitehorse", "Canada/Yukon"]⟩,
    ⟨-14400,
      [(1384056000, -18000)],
      none,
      ["America/Eirunepe", "America/Porto_Acre", "America/Rio_Branco", "Brazil/Acre"]⟩,
    ⟨-28800,
      [(1268560800, -25200), (1289120400, -28800), (1300010400, -25200), (1320570000, -28800),
        (1331460000, -25200), (1352019600, -28800), (1362909600, -25200), (1383469200, -28800),
        (1394359200, -25200), (1414918800, -28800), (1425808800, -25200)],
      none,
      ["America/Fort_Nelson"]⟩,
    ⟨-10800,
      [(1269738000, -7200), (1288486800, -10800), (1301187600, -7200), (1319936400, -10800),
        (1332637200, -7200), (1351386000, -10800), (1364691600, -7200), (1382835600, -10800),
        (1396141200, -7200), (1414285200, -10800), (1427590800, -7200), (1445734800, -10800),
        (1459040400, -7200), (1477789200, -10800), (1490490000, -7200), (1509238800, -10800),
        (1521939600, -7200), (1540688400, -10800), (1553994000, -7200), (1572138000, -10800),
        (1585443600, -7200), (1603587600, -10800), (1616893200, -7200), (1635642000, -10800),
        (1648342800, -7200), (1667091600, -10800), (1679792400, -7200)],
      some ⟨2024, -7200, -3600, ⟨3, 5, 0, -3600⟩, ⟨10, 5, 0, 0⟩⟩,
      ["America/Godthab", "America/Nuuk"]⟩,
    ⟨-14400,
      [(1268539260, -10800), (1289098860, -14400), (1299988860, -10800), (1320555600, -14400)],
      some ⟨2012, -14400, -10800, ⟨3, 2, 0, 7200⟩, ⟨11, 1, 0, 7200⟩⟩,
      ["America/Goose_Bay"]⟩,
    ⟨-18000,
      [(1268550000, -14400), (1289109600, -18000), (1299999600, -14400), (1320559200, -18000),
        (1331449200, -14400), (1352008800, -18000), (1362898800, -14400), (1383458400, -18000),
        (1394348400, -14400), (1414908000, -18000), (1425798000, -14400), (1541311200, -18000)],
      some ⟨2019, -18000, -14400, ⟨3, 2, 0, 7200⟩, ⟨11, 1, 0, 7200⟩⟩,
      ["America/Grand_Turk"]⟩,
    ⟨-18000,
      [(1268542800, -14400), (1288501200, -18000), (1300597200, -14400), (1321160400, -18000),
        (1333256400, -14400), (1352005200, -18000)],
      some ⟨2013, -18000, -14400, ⟨3, 2, 0, 0⟩, ⟨11, 1, 0, 3600⟩⟩,
      ["America/Havana", "Cuba"]⟩]

def moreAmericanZones : List ChangedZone :=
  [⟨-25200,
      [(1270371600, -21600), (1288512000, -25200), (1301821200, -21600), (1319961600, -25200),
        (1333270800, -21600), (1351411200, -25200), (1365325200, -21600), (1382860800, -25200),
        (1396774800, -21600), (1414310400, -25200), (1428224400, -21600), (1445760000, -25200),
        (1459674000, -21600), (1477814400, -25200), (1491123600, -21600), (1509264000, -25200),
        (1522573200, -21600), (1540713600, -25200), (1554627600, -21600), (1572163200, -25200),
        (1586077200, -21600), (1603612800, -25200), (1617526800, -21600), (1635667200, -25200),
        (1648976400, -21600), (1667116800, -25200)],
      none,
      ["America/Mazatlan", "Mexico/BajaSur"]⟩,
    ⟨-21600,
      [(1270368000, -18000), (1288508400, -21600), (1301817600, -18000), (1319958000, -21600),
        (1333267200, -18000), (1351407600, -21600), (1365321600, -18000), (1382857200, -21600),
        (1396771200, -18000), (1414306800, -21600), (1428220800, -18000), (1445756400, -21600),
        (1459670400, -18000), (1477810800, -21600), (1491120000, -18000), (1509260400, -21600),
        (1522569600, -18000), (1540710000, -21600), (1554624000, -18000), (1572159600, -21600),
        (1586073600, -18000), (1603609200, -21600), (1617523200, -18000), (1635663600, -21600),
        (1648972800, -18000), (1667113200, -21600)],
      none,
      ["America/Merida", "America/Mexico_City", "America/Monterrey", "Mexico/General"]⟩,
    ⟨-28800,
      [(1446372000, -32400), (1457866800, -28800), (1478426400, -32400), (1489316400, -28800),
        (1509876000, -32400), (1520766000, -28800), (1547978400, -32400), (1552215600, -28800),
        (1572775200, -32400)],
      some ⟨2020, -32400, -28800, ⟨3, 2, 0, 7200⟩, ⟨11, 1, 0, 7200⟩⟩,
      ["America/Metlakatla"]⟩,
    ⟨-7200,
      [(1268539200, -10800), (1286082000, -7200), (1299988800, -10800), (1317531600, -7200),
        (1331438400, -10800), (1349586000, -7200), (1362888000, -10800), (1381035600, -7200),
        (1394337600, -10800), (1412485200, -7200), (1425787200, -10800)],
      none,
      ["America/Montevideo"]⟩,
    ⟨-25200,
      [(1268557200, -21600)],
      some ⟨2011, -21600, -18000, ⟨3, 2, 0, 7200⟩, ⟨11, 1, 0, 7200⟩⟩,
      ["America/North_Dakota/Beulah"]⟩,
    ⟨-25200,
      [(1268557200, -21600), (1289116800, -25200), (1300006800, -21600), (1320566400, -25200),
        (1331456400, -21600), (1352016000, -25200), (1362906000, -21600), (1383465600, -25200),
        (1394355600, -21600), (1414915200, -25200), (1425805200, -21600), (1446364800, -25200),
        (1457859600, -21600), (1478419200, -25200), (1489309200, -21600), (1509868800, -25200),
        (1520758800, -21600), (1541318400, -25200), (1552208400, -21600), (1572768000, -25200),
        (1583658000, -21600), (1604217600, -25200), (1615712400, -21600), (1636272000, -25200),
        (1647162000, -21600)],
      some ⟨2023, -21600, -18000, ⟨3, 2, 0, 7200⟩, ⟨11, 1, 0, 7200⟩⟩,
      ["America/Ojinaga"]⟩,
    ⟨-18000,
      [(1331449200, -14400), (1352008800, -18000), (1362898800, -14400), (1383458400, -18000),
        (1394348400, -14400), (1414908000, -18000), (1425798000, -14400), (1446357600, -18000)],
      some ⟨2017, -18000, -14400, ⟨3, 2, 0, 7200⟩, ⟨11, 1, 0, 7200⟩⟩,
      ["America/Port-au-Prince"]⟩,
    ⟨-10800,
      [(1270350000, -14400), (1286683200, -10800), (1304823600, -14400), (1313899200, -10800),
        (1335668400, -14400), (1346558400, -10800), (1367118000, -14400), (1378612800, -10800),
        (1398567600, -14400), (1410062400, -10800), (1463281200, -14400), (1471147200, -10800)],
      none,
      ["America/Punta_Arenas", "Antarctica/Palmer"]⟩,
    ⟨-10800,
      [(1270350000, -14400), (1286683200, -10800), (1304823600, -14400), (1313899200, -10800),
        (1335668400, -14400), (1346558400, -10800), (1367118000, -14400), (1378612800, -10800),
        (1398567600, -14400), (1410062400, -10800), (1463281200, -14400), (1471147200, -10800),
        (1494730800, -14400), (1502596800, -10800), (1526180400, -14400), (1534046400, -10800),
        (1554606000, -14400), (1567915200, -10800), (1586055600, -14400), (1599364800, -10800),
        (1617505200, -14400), (1630814400, -10800), (1648954800, -14400), (1662868800, -10800)],
      some ⟨2023, -14400, -10800, ⟨9, 1, 6, 86400⟩, ⟨4, 1, 6, 86400⟩⟩,
      ["America/Santiago", "Chile/Continental"]⟩,
    ⟨-7200,
      [(1266717600, -10800), (1287284400, -7200), (1298167200, -10800), (1318734000, -7200),
        (1330221600, -10800), (1350788400, -7200), (1361066400, -10800), (1382238000, -7200),
        (1392516000, -10800), (1413687600, -7200), (1424570400, -10800), (1445137200, -7200),
        (1456020000, -10800), (1476586800, -7200), (1487469600, -10800), (1508036400, -7200),
        (1518919200, -10800), (1541300400, -7200), (1550368800, -10800)],
      none,
      ["America/Sao_Paulo", "Brazil/East"]⟩,
    ⟨-3600,
      [(1269738000, 0), (1288486800, -3600), (1301187600, 0), (1319936400, -3600),
        (1332637200, 0), (1351386000, -3600), (1364691600, 0), (1382835600, -3600),
        (1396141200, 0), (1414285200, -3600), (1427590800, 0), (1445734800, -3600),
        (1459040400, 0), (1477789200, -3600), (1490490000, 0), (1509238800, -3600),
        (1521939600, 0), (1540688400, -3600), (1553994000, 0), (1572138000, -3600),
        (1585443600, 0), (1603587600, -3600), (1616893200, 0), (1635642000, -3600),
        (1648342800, 0), (1667091600, -3600), (1679792400, 0), (1698541200, -3600),
        (1729990800, -7200)],
      some ⟨2025, -7200, -3600, ⟨3, 5, 0, -3600⟩, ⟨10, 5, 0, 0⟩⟩,
      ["America/Scoresbysund"]⟩,
    ⟨-12600,
      [(1268537460, -9000), (1289097060, -12600), (1299987060, -9000), (1320553800, -12600)],
      some ⟨2012, -12600, -9000, ⟨3, 2, 0, 7200⟩, ⟨11, 1, 0, 7200⟩⟩,
      ["America/St_Johns", "Canada/Newfoundland"]⟩]

def furtherZones : List ChangedZone :=
  [⟨39600,
      [(1267714800, 28800), (1319738400, 39600), (1329843600, 28800), (1477065600, 39600),
        (1520701200, 28800), (1538856000, 39600), (1552752000, 28800), (1570129200, 39600),
        (1583596800, 28800), (1601740860, 39600), (1615640400, 28800), (1633190460, 39600),
        (1647090000, 28800), (1664640060, 39600), (1678291200, 28800)],
      none,
      ["Antarctica/Casey"]⟩,
    ⟨18000,
      [(1268251200, 25200), (1319742000, 18000), (1329854400, 25200)],
      none,
      ["Antarctica/Davis"]⟩,
    ⟨25200,
      [(1702839600, 18000)],
      none,
      ["Antarctica/Vostok"]⟩,
    ⟨-10800,
      [(1271566800, -14400), (1283666400, -10800)],
      none,
      ["Atlantic/Stanley"]⟩,
    ⟨-18000,
      [(1270350000, -21600), (1286683200, -18000), (1304823600, -21600), (1313899200, -18000),
        (1335668400, -21600), (1346558400, -18000), (1367118000, -21600), (1378612800, -18000),
        (1398567600, -21600), (1410062400, -18000), (1463281200, -21600), (1471147200, -18000),
        (1494730800, -21600), (1502596800, -18000), (1526180400, -21600), (1534046400, -18000),
        (1554606000, -21600), (1567915200, -18000), (1586055600, -21600), (1599364800, -18000),
        (1617505200, -21600), (1630814400, -18000), (1648954800, -21600), (1662868800, -18000)],
      some ⟨2023, -21600, -18000, ⟨9, 1, 6, 79200⟩, ⟨4, 1, 6, 79200⟩⟩,
      ["Chile/EasterIsland", "Pacific/Easter"]⟩]

def asianZones : List ChangedZone :=
  [⟨21600,
      [(1709229600, 18000)],
      none,
      ["Asia/Almaty", "Asia/Qostanay"]⟩,
    ⟨7200,
      [(1269554400, 10800), (1288303200, 7200), (1301608800, 10800), (1319752800, 7200),
        (1333058400, 10800), (1387486800, 7200), (1395957600, 10800), (1414706400, 7200),
        (1427407200, 10800), (1446156000, 7200), (1459461600, 10800), (1477605600, 7200),
        (1490911200, 10800), (1509055200, 7200), (1522360800, 10800), (1540504800, 7200),
        (1553810400, 10800), (1571954400, 7200), (1585260000, 10800), (1604008800, 7200),
        (1616709600, 10800), (1635458400, 7200), (1645740000, 10800)],
      none,
      ["Asia/Amman"]⟩,
    ⟨43200,
      [(1288450800, 39600), (1301151600, 43200)],
      none,
      ["Asia/Anadyr", "Asia/Kamchatka"]⟩,
    ⟨14400,
      [(1269734400, 18000), (1288483200, 14400), (1301184000, 18000), (1319932800, 14400),
        (1332633600, 18000), (1351382400, 14400), (1364688000, 18000), (1382832000, 14400),
        (1396137600, 18000), (1414281600, 14400), (1427587200, 18000), (1445731200, 14400)],
      none,
      ["Asia/Baku"]⟩,
    ⟨21600,
      [(1269720000, 25200), (1288468800, 21600), (1301169600, 25200), (1414263600, 21600),
        (1459022400, 25200)],
      none,
      ["Asia/Barnaul"]⟩,
    ⟨32400,
      [(1269709200, 36000), (1288458000, 32400), (1301158800, 36000), (1414252800, 28800),
        (1459015200, 32400)],
      none,
      ["Asia/Chita"]⟩,
    ⟨28800,
      [(1427479200, 32400), (1443193200, 28800), (1458928800, 32400), (1474642800, 28800)],
      none,
      ["Asia/Choibalsan", "Asia/Ulaanbaatar", "Asia/Ulan_Bator"]⟩,
    ⟨7200,
      [(1270159200, 10800), (1288299600, 7200), (1301608800, 10800), (1319749200, 7200),
        (1333058400, 10800), (1351198800, 7200), (1364508000, 10800), (1382648400, 7200),
        (1395957600, 10800), (1414702800, 7200), (1427407200, 10800), (1446152400, 7200),
        (1458856800, 10800), (1477602000, 7200), (1490911200, 10800), (1509051600, 7200),
        (1522360800, 10800), (1540501200, 7200), (1553810400, 10800), (1571950800, 7200),
        (1585260000, 10800), (1604005200, 7200), (1616709600, 10800), (1635454800, 7200),
        (1648159200, 10800)],
      none,
      ["Asia/Damascus"]⟩,
    ⟨7200,
      [(1269738000, 10800), (1288486800, 7200), (1301187600, 10800), (1319936400, 7200),
        (1332637200, 10800), (1351386000, 7200), (1364691600, 10800), (1382835600, 7200),
        (1396141200, 10800), (1414285200, 7200), (1427590800, 10800), (1445734800, 7200),
        (1459040400, 10800), (1509238800, 7200)],
      some ⟨2018, 7200, 10800, ⟨3, 5, 0, 10800⟩, ⟨10, 5, 0, 14400⟩⟩,
      ["Asia/Famagusta"]⟩]

def moreAsianZones : List ChangedZone :=
  [⟨7200,
      [(1269640860, 10800), (1281474000, 7200), (1301608860, 10800), (1312146000, 7200),
        (1333058400, 10800), (1348178400, 7200), (1364508000, 10800), (1380229200, 7200),
        (1395957600, 10800), (1414098000, 7200), (1427493600, 10800), (1445551200, 7200),
        (1458946800, 10800), (1477692000, 7200), (1490396400, 10800), (1509141600, 7200),
        (1521846000, 10800), (1540591200, 7200), (1553810400, 10800), (1572037200, 7200),
        (1585346400, 10800), (1603490400, 7200), (1616796000, 10800), (1635458400, 7200),
        (1648332000, 10800), (1666998000, 7200), (1682726400, 10800), (1698447600, 7200),
        (1713571200, 10800), (1729897200, 7200), (1744416000, 10800), (1761346800, 7200),
        (1774656000, 10800), (1792796400, 7200), (1806105600, 10800), (1824850800, 7200),
        (1837555200, 10800), (1856300400, 7200), (1869004800, 10800), (1887750000, 7200),
        (1901059200, 10800), (1919199600, 7200), (1932508800, 10800), (1950649200, 7200),
        (1963958400, 10800), (1982703600, 7200), (1995408000, 10800), (2014153200, 7200),
        (2026857600, 10800), (2045602800, 7200), (2058307200, 10800), (2077052400, 7200),
        (2090361600, 10800), (2107897200, 7200), (2121811200, 10800), (2138742000, 7200),
        (2153260800, 10800), (2168982000, 7200), (2184710400, 10800), (2199826800, 7200),
        (2216160000, 10800), (2230066800, 7200), (2234304000, 10800), (2234905200, 7200),
        (2248214400, 10800), (2260911600, 7200), (2264544000, 10800), (2266354800, 7200),
        (2279664000, 10800), (2291756400, 7200), (2295388800, 10800), (2297804400, 7200),
        (2311113600, 10800), (2321996400, 7200), (2326233600, 10800), (2329254000, 7200),
        (2342563200, 10800), (2352841200, 7200), (2356473600, 10800), (2361308400, 7200),
        (2374012800, 10800), (2383686000, 7200), (2387318400, 10800), (2392758000, 7200),
        (2405462400, 10800), (2413926000, 7200), (2418163200, 10800), (2424207600, 7200),
        (2437516800, 10800), (2444770800, 7200), (2448403200, 10800), (2455657200, 7200),
        (2468966400, 10800), (2475010800, 7200), (2479248000, 10800), (2487106800, 7200),
        (2500416000, 10800), (2505855600, 7200), (2509488000, 10800), (2519161200, 7200),
        (2531865600, 10800), (2536700400, 7200), (2540332800, 10800), (2550610800, 7200),
        (2563315200, 10800), (2566940400, 7200), (2571177600, 10800), (2582060400, 7200),
        (2595369600, 10800), (2597785200, 7200), (2601417600, 10800), (2613510000, 7200),
        (2626819200, 10800), (2628025200, 7200), (2632262400, 10800), (2644959600, 7200),
        (2658268800, 10800), (2658870000, 7200), (2663107200, 10800), (2676409200, 7200),
        (2693347200, 10800), (2708463600, 7200), (2724192000, 10800), (2739913200, 7200),
        (2754432000, 10800), (2771362800, 7200), (2785276800, 10800), (2802812400, 7200),
        (2816121600, 10800), (2834262000, 7200), (2847571200, 10800), (2866316400, 7200),
        (2879020800, 10800), (2897766000, 7200), (2910470400, 10800), (2929215600, 7200),
        (2941920000, 10800), (2960665200, 7200), (2973974400, 10800), (2992114800, 7200),
        (3005424000, 10800), (3023564400, 7200), (3036873600, 10800), (3055618800, 7200),
        (3068323200, 10800), (3087068400, 7200), (3099772800, 10800), (3117913200, 7200),
        (3131827200, 10800), (3148758000, 7200), (3163276800, 10800), (3179602800, 7200),
        (3194726400, 10800), (3209842800, 7200), (3226176000, 10800), (3240687600, 7200),
        (3244320000, 10800), (3244921200, 7200), (3257625600, 10800), (3271532400, 7200),
        (3275164800, 10800), (3276370800, 7200), (3289075200, 10800), (3301772400, 7200),
        (3306009600, 10800), (3307820400, 7200), (3321129600, 10800), (3332617200, 7200),
        (3336249600, 10800), (3339270000, 7200), (3352579200, 10800), (3362857200, 7200),
        (3367094400, 10800), (3370719600, 7200), (3384028800, 10800), (3393702000, 7200),
        (3397939200, 10800), (3402774000, 7200), (3415478400, 10800), (3424546800, 7200),
        (3428179200, 10800), (3434223600, 7200), (3446928000, 10800), (3454786800, 7200),
        (3459024000, 10800), (3465673200, 7200), (3478982400, 10800), (3485631600, 7200),
        (3489264000, 10800), (3497122800, 7200), (3510432000, 10800), (3516476400, 7200),
        (3520108800, 10800), (3528572400, 7200), (3541881600, 10800), (3546716400, 7200),
        (3550953600, 10800), (3560022000, 7200), (3573331200, 10800), (3577561200, 7200),
        (3581193600, 10800), (3592076400, 7200), (3604780800, 10800), (3607801200, 7200),
        (3612038400, 10800), (3623526000, 7200), (3636230400, 10800), (3638646000, 7200),
        (3642883200, 10800), (3654975600, 7200), (3668284800, 10800), (3669490800, 7200),
        (3673123200, 10800), (3686425200, 7200)],
      some ⟨2087, 7200, 10800, ⟨3, 4, 4, 180000⟩, ⟨10, 4, 4, 180000⟩⟩,
      ["Asia/Gaza"]⟩]

def furtherAsianZones : List ChangedZone :=
  [⟨7200,
      [(1269554400, 10800), (1281474000, 7200), (1301608860, 10800), (1312146000, 7200),
        (1314655200, 10800), (1317330000, 7200), (1333058400, 10800), (1348178400, 7200),
        (1364508000, 10800), (1380229200, 7200), (1395957600, 10800), (1414098000, 7200),
        (1427493600, 10800), (1445551200, 7200), (1458946800, 10800), (1477692000, 7200),
        (1490396400, 10800), (1509141600, 7200), (1521846000, 10800), (1540591200, 7200),
        (1553810400, 10800), (1572037200, 7200), (1585346400, 10800), (1603490400, 7200),
        (1616796000, 10800), (1635458400, 7200), (1648332000, 10800), (1666998000, 7200),
        (1682726400, 10800), (1698447600, 7200), (1713571200, 10800), (1729897200, 7200),
        (1744416000, 10800), (1761346800, 7200), (1774656000, 10800), (1792796400, 7200),
        (1806105600, 10800), (1824850800, 7200), (1837555200, 10800), (1856300400, 7200),
        (1869004800, 10800), (1887750000, 7200), (1901059200, 10800), (1919199600, 7200),
        (1932508800, 10800), (1950649200, 7200), (1963958400, 10800), (1982703600, 7200),
        (1995408000, 10800), (2014153200, 7200), (2026857600, 10800), (2045602800, 7200),
        (2058307200, 10800), (2077052400, 7200), (2090361600, 10800), (2107897200, 7200),
        (2121811200, 10800), (2138742000, 7200), (2153260800, 10800), (2168982000, 7200),
        (2184710400, 10800), (2199826800, 7200), (2216160000, 10800), (2230066800, 7200),
        (2234304000, 10800), (2234905200, 7200), (2248214400, 10800), (2260911600, 7200),
        (2264544000, 10800), (2266354800, 7200), (2279664000, 10800), (2291756400, 7200),
        (2295388800, 10800), (2297804400, 7200), (2311113600, 10800), (2321996400, 7200),
        (2326233600, 10800), (2329254000, 7200), (2342563200, 10800), (2352841200, 7200),
        (2356473600, 10800), (2361308400, 7200), (2374012800, 10800), (2383686000, 7200),
        (2387318400, 10800), (2392758000, 7200), (2405462400, 10800), (2413926000, 7200),
        (2418163200, 10800), (2424207600, 7200), (2437516800, 10800), (2444770800, 7200),
        (2448403200, 10800), (2455657200, 7200), (2468966400, 10800), (2475010800, 7200),
        (2479248000, 10800), (2487106800, 7200), (2500416000, 10800), (2505855600, 7200),
        (2509488000, 10800), (2519161200, 7200), (2531865600, 10800), (2536700400, 7200),
        (2540332800, 10800), (2550610800, 7200), (2563315200, 10800), (2566940400, 7200),
        (2571177600, 10800), (2582060400, 7200), (2595369600, 10800), (2597785200, 7200),
        (2601417600, 10800), (2613510000, 7200), (2626819200, 10800), (2628025200, 7200),
        (2632262400, 10800), (2644959600, 7200), (2658268800, 10800), (2658870000, 7200),
        (2663107200, 10800), (2676409200, 7200), (2693347200, 10800), (2708463600, 7200),
        (2724192000, 10800), (2739913200, 7200), (2754432000, 10800), (2771362800, 7200),
        (2785276800, 10800), (2802812400, 7200), (2816121600, 10800), (2834262000, 7200),
        (2847571200, 10800), (2866316400, 7200), (2879020800, 10800), (2897766000, 7200),
        (2910470400, 10800), (2929215600, 7200), (2941920000, 10800), (2960665200, 7200),
        (2973974400, 10800), (2992114800, 7200), (3005424000, 10800), (3023564400, 7200),
        (3036873600, 10800), (3055618800, 7200), (3068323200, 10800), (3087068400, 7200),
        (3099772800, 10800), (3117913200, 7200), (3131827200, 10800), (3148758000, 7200),
        (3163276800, 10800), (3179602800, 7200), (3194726400, 10800), (3209842800, 7200),
        (3226176000, 10800), (3240687600, 7200), (3244320000, 10800), (3244921200, 7200),
        (3257625600, 10800), (3271532400, 7200), (3275164800, 10800), (3276370800, 7200),
        (3289075200, 10800), (3301772400, 7200), (3306009600, 10800), (3307820400, 7200),
        (3321129600, 10800), (3332617200, 7200), (3336249600, 10800), (3339270000, 7200),
        (3352579200, 10800), (3362857200, 7200), (3367094400, 10800), (3370719600, 7200),
        (3384028800, 10800), (3393702000, 7200), (3397939200, 10800), (3402774000, 7200),
        (3415478400, 10800), (3424546800, 7200), (3428179200, 10800), (3434223600, 7200),
        (3446928000, 10800), (3454786800, 7200), (3459024000, 10800), (3465673200, 7200),
        (3478982400, 10800), (3485631600, 7200), (3489264000, 10800), (3497122800, 7200),
        (3510432000, 10800), (3516476400, 7200), (3520108800, 10800), (3528572400, 7200),
        (3541881600, 10800), (3546716400, 7200), (3550953600, 10800), (3560022000, 7200),
        (3573331200, 10800), (3577561200, 7200), (3581193600, 10800), (3592076400, 7200),
        (3604780800, 10800), (3607801200, 7200), (3612038400, 10800), (3623526000, 7200),
        (3636230400, 10800), (3638646000, 7200), (3642883200, 10800), (3654975600, 7200),
        (3668284800, 10800), (3669490800, 7200), (3673123200, 10800), (3686425200, 7200)],
      some ⟨2087, 7200, 10800, ⟨3, 4, 4, 180000⟩, ⟨10, 4, 4, 180000⟩⟩,
      ["Asia/Hebron"]⟩,
    ⟨25200,
      [(1427482800, 28800), (1443196800, 25200), (1458932400, 28800), (1474646400, 25200)],
      none,
      ["Asia/Hovd"]⟩,
    ⟨28800,
      [(1269712800, 32400), (1288461600, 28800), (1301162400, 32400), (1414256400, 28800)],
      none,
      ["Asia/Irkutsk"]⟩,
    ⟨7200,
      [(1269738000, 10800), (1288486800, 7200), (1301274000, 10800), (1319936400, 7200),
        (1332637200, 10800), (1351386000, 7200), (1364691600, 10800), (1382835600, 7200),
        (1396227600, 10800), (1414285200, 7200), (1427590800, 10800), (1446944400, 7200),
        (1459040400, 10800)],
      none,
      ["Asia/Istanbul", "Europe/Istanbul", "Turkey"]⟩,
    ⟨7200,
      [(1269561600, 10800), (1284246000, 7200), (1301616000, 10800), (1317510000, 7200),
        (1333065600, 10800), (1348354800, 7200)],
      some ⟨2013, 7200, 10800, ⟨3, 4, 4, 93600⟩, ⟨10, 5, 0, 7200⟩⟩,
      ["Asia/Jerusalem", "Asia/Tel_Aviv", "Israel"]⟩,
    ⟨36000,
      [(1269705600, 39600), (1288454400, 36000), (1301155200, 39600), (1315832400, 36000),
        (1414252800, 32400)],
      none,
      ["Asia/Khandyga"]⟩,
    ⟨25200,
      [(1269716400, 28800), (1288465200, 25200), (1301166000, 28800), (1414260000, 25200)],
      none,
      ["Asia/Krasnoyarsk"]⟩,
    ⟨39600,
      [(1269702000, 43200), (1288450800, 39600), (1301151600, 43200), (1414245600, 36000),
        (1461427200, 39600)],
      none,
      ["Asia/Magadan"]⟩,
    ⟨25200,
      [(1288468800, 21600), (1301169600, 25200)],
      none,
      ["Asia/Novokuznetsk"]⟩]

def remainingAsianZones : List ChangedZone :=
  [⟨21600,
      [(1269720000, 25200), (1288468800, 21600), (1301169600, 25200), (1414263600, 21600),
        (1469304000, 25200)],
      none,
      ["Asia/Novosibirsk"]⟩,
    ⟨21600,
      [(1269720000, 25200), (1288468800, 21600), (1301169600, 25200), (1414263600, 21600)],
      none,
      ["Asia/Omsk"]⟩,
    ⟨32400,
      [(1439564400, 30600), (1525446000, 32400)],
      none,
      ["Asia/Pyongyang"]⟩,
    ⟨21600,
      [(1545328800, 18000)],
      none,
      ["Asia/Qyzylorda"]⟩,
    ⟨36000,
      [(1269705600, 39600), (1288454400, 36000), (1301155200, 39600), (1414249200, 36000),
        (1459008000, 39600)],
      none,
      ["Asia/Sakhalin"]⟩,
    ⟨39600,
      [(1269702000, 43200), (1288450800, 39600), (1301151600, 43200), (1414245600, 39600)],
      none,
      ["Asia/Srednekolymsk"]⟩,
    ⟨12600,
      [(1269203400, 16200), (1285097400, 12600), (1300739400, 16200), (1316633400, 12600),
        (1332275400, 16200), (1348169400, 12600), (1363897800, 16200), (1379791800, 12600),
        (1395433800, 16200), (1411327800, 12600), (1426969800, 16200), (1442863800, 12600),
        (1458505800, 16200), (1474399800, 12600), (1490128200, 16200), (1506022200, 12600),
        (1521664200, 16200), (1537558200, 12600), (1553200200, 16200), (1569094200, 12600),
        (1584736200, 16200), (1600630200, 12600), (1616358600, 16200), (1632252600, 12600),
        (1647894600, 16200), (1663788600, 12600)],
      none,
      ["Asia/Tehran", "Iran"]⟩,
    ⟨21600,
      [(1269720000, 25200), (1288468800, 21600), (1301169600, 25200), (1414263600, 21600),
        (1464465600, 25200)],
      none,
      ["Asia/Tomsk"]⟩,
    ⟨39600,
      [(1269702000, 43200), (1288450800, 39600), (1301151600, 43200), (1315828800, 39600),
        (1414249200, 36000)],
      none,
      ["Asia/Ust-Nera"]⟩,
    ⟨36000,
      [(1269705600, 39600), (1288454400, 36000), (1301155200, 39600), (1414249200, 36000)],
      none,
      ["Asia/Vladivostok"]⟩,
    ⟨32400,
      [(1269709200, 36000), (1288458000, 32400), (1301158800, 36000), (1414252800, 32400)],
      none,
      ["Asia/Yakutsk"]⟩,
    ⟨18000,
      [(1269723600, 21600), (1288472400, 18000), (1301173200, 21600), (1414267200, 18000)],
      none,
      ["Asia/Yekaterinburg"]⟩,
    ⟨14400,
      [(1269727200, 18000), (1288476000, 14400), (1301176800, 18000), (1319925600, 14400)],
      none,
      ["Asia/Yerevan"]⟩]

def europeanZones : List ChangedZone :=
  [⟨10800,
      [(1269730800, 14400), (1288479600, 10800), (1301180400, 14400), (1414274400, 10800),
        (1459033200, 14400)],
      none,
      ["Europe/Astrakhan", "Europe/Ulyanovsk"]⟩,
    ⟨7200,
      [(1269734400, 10800), (1288483200, 7200), (1301184000, 10800), (1319932800, 7200),
        (1332633600, 10800), (1351382400, 7200), (1364688000, 10800), (1382832000, 7200),
        (1396137600, 10800), (1414281600, 7200), (1427587200, 10800), (1445731200, 7200),
        (1459036800, 10800), (1477785600, 7200), (1490486400, 10800), (1509235200, 7200),
        (1521936000, 10800), (1540684800, 7200), (1553990400, 10800), (1572134400, 7200),
        (1585440000, 10800), (1603584000, 7200), (1616889600, 10800), (1635638400, 7200)],
      some ⟨2022, 7200, 10800, ⟨3, 5, 0, 10800⟩, ⟨10, 5, 0, 14400⟩⟩,
      ["Europe/Chisinau", "Europe/Tiraspol"]⟩,
    ⟨7200,
      [(1269734400, 10800), (1288483200, 7200), (1301184000, 10800), (1414278000, 7200)],
      none,
      ["Europe/Kaliningrad"]⟩,
    ⟨10800,
      [(1269730800, 14400), (1288479600, 10800), (1301180400, 14400), (1414274400, 10800)],
      none,
      ["Europe/Kirov", "Europe/Moscow", "W-SU"]⟩,
    ⟨7200,
      [(1269734400, 10800), (1288483200, 7200), (1301184000, 10800)],
      none,
      ["Europe/Minsk"]⟩,
    ⟨14400,
      [(1288479600, 10800), (1301180400, 14400)],
      none,
      ["Europe/Samara"]⟩,
    ⟨10800,
      [(1269730800, 14400), (1288479600, 10800), (1301180400, 14400), (1414274400, 10800),
        (1480806000, 14400)],
      none,
      ["Europe/Saratov"]⟩,
    ⟨7200,
      [(1269738000, 10800), (1288486800, 7200), (1301187600, 10800), (1319936400, 7200),
        (1332637200, 10800), (1351386000, 7200), (1364691600, 10800), (1382835600, 7200),
        (1396137600, 14400), (1414274400, 10800)],
      none,
      ["Europe/Simferopol"]⟩,
    ⟨10800,
      [(1269730800, 14400), (1288479600, 10800), (1301180400, 14400), (1414274400, 10800),
        (1540681200, 14400), (1609020000, 10800)],
      none,
      ["Europe/Volgograd"]⟩]

def pacificZones : List ChangedZone :=
  [⟨-39600,
      [(1285498800, -36000), (1301752800, -39600), (1316872800, -36000), (1325239200, 50400),
        (1333202400, 46800), (1348927200, 50400), (1365256800, 46800), (1380376800, 50400),
        (1396706400, 46800), (1411826400, 50400), (1428156000, 46800), (1443276000, 50400),
        (1459605600, 46800), (1474725600, 50400), (1491055200, 46800), (1506175200, 50400),
        (1522504800, 46800), (1538229600, 50400), (1554559200, 46800), (1569679200, 50400),
        (1586008800, 46800), (1601128800, 50400), (1617458400, 46800)],
      none,
      ["Pacific/Apia"]⟩,
    ⟨36000,
      [(1419696000, 39600)],
      none,
      ["Pacific/Bougainville"]⟩,
    ⟨-39600,
      [(1325242800, 46800)],
      none,
      ["Pacific/Fakaofo"]⟩,
    ⟨46800,
      [(1269698400, 43200), (1287842400, 46800), (1299333600, 43200), (1319292000, 46800),
        (1327154400, 43200), (1350741600, 46800), (1358604000, 43200), (1382796000, 46800),
        (1390050000, 43200), (1414850400, 46800), (1421503200, 43200), (1446300000, 46800),
        (1452952800, 43200), (1478354400, 46800), (1484402400, 43200), (1509804000, 46800),
        (1515852000, 43200), (1541253600, 46800), (1547301600, 43200), (1573308000, 46800),
        (1578751200, 43200), (1608386400, 46800), (1610805600, 43200)],
      none,
      ["Pacific/Fiji"]⟩,
    ⟨41400,
      [(1443882600, 39600), (1570287600, 43200)],
      some ⟨2020, 39600, 43200, ⟨10, 1, 0, 7200⟩, ⟨4, 1, 0, 10800⟩⟩,
      ["Pacific/Norfolk"]⟩,
    ⟨46800,
      [(1478350800, 50400), (1484398800, 46800)],
      none,
      ["Pacific/Tongatapu"]⟩]

def changedZones : List ChangedZone :=
  africanZones ++ americanZones ++ moreAmericanZones ++ furtherZones ++
    asianZones ++ moreAsianZones ++ furtherAsianZones ++ remainingAsianZones ++
    europeanZones ++ pacificZones

end CommitSearch.Schedule
