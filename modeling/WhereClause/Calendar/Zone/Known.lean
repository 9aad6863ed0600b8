import WhereClause.Calendar.Zone

/-!
# The known time zones

Each zone with its offsets and the instants at which they came into force.  After the last change
listed its offset stays.  No other definition looks into the list: it is the `ZoneTable` that names
are looked up in unless there is another one.
-/

set_option autoImplicit false

namespace WhereClause.Calendar.Zone

/-- Changes given as pairs of an instant and the number of the offset in force from then on.  The
instants in `past` are counted in seconds back from 1970, those in `later` forward. -/
def changesOf (offset : Nat → Offset) (past later : List (Nat × Nat)) : List (Int × Offset) :=
  past.map (fun (seconds, k) ↦ (-(seconds : Int), offset k)) ++
    later.map fun (seconds, k) ↦ ((seconds : Int), offset k)

/-! ## GMT -/

/-- The zone `GMT`. -/
def gmt : Zone where
  name := "GMT"
  initial := ⟨0, "GMT"⟩
  changes := []

/-! ## Etc/GMT+5 -/

/-- The zone `Etc/GMT+5`. -/
def fiveBehind : Zone where
  name := "Etc/GMT+5"
  initial := ⟨-18000, "-05"⟩
  changes := []

/-! ## Etc/GMT-14 -/

/-- The zone `Etc/GMT-14`. -/
def fourteenAhead : Zone where
  name := "Etc/GMT-14"
  initial := ⟨50400, "+14"⟩
  changes := []

/-! ## Asia/Shanghai -/

/-- The offsets of `Asia/Shanghai`. -/
def shanghaiOffset : Nat → Offset
  | 0 => ⟨29143, "LMT"⟩
  | 1 => ⟨28800, "CST"⟩
  | _ => ⟨32400, "CDT"⟩

/-- The changes of `Asia/Shanghai` before 1970. -/
def shanghaiPast : List (Nat × Nat) := [
  (2177481943, 1), (1600675200, 2), (1585904400, 1), (933667200, 2), (922093200, 1),
  (908870400, 2), (888829200, 1), (881049600, 2), (767869200, 1), (745833600, 2), (733827600, 1),
  (716889600, 2), (699613200, 1), (683884800, 2), (670669200, 1), (652348800, 2), (650019600, 1)]

/-- The changes of `Asia/Shanghai` from 1970 on. -/
def shanghaiLater : List (Nat × Nat) := [
  (515527200, 2), (527014800, 1), (545162400, 2), (558464400, 1), (577216800, 2), (589914000, 1),
  (608666400, 2), (621968400, 1), (640116000, 2), (653418000, 1), (671565600, 2), (684867600, 1)]

/-- The zone `Asia/Shanghai`. -/
def shanghai : Zone where
  name := "Asia/Shanghai"
  initial := shanghaiOffset 0
  changes := changesOf shanghaiOffset shanghaiPast shanghaiLater

/-! ## Asia/Kolkata -/

/-- The offsets of `Asia/Kolkata`. -/
def kolkataOffset : Nat → Offset
  | 0 => ⟨21208, "LMT"⟩
  | 1 => ⟨21200, "HMT"⟩
  | 2 => ⟨19270, "MMT"⟩
  | 3 => ⟨19800, "IST"⟩
  | _ => ⟨23400, "+0630"⟩

/-- The changes of `Asia/Kolkata` before 1970. -/
def kolkataPast : List (Nat × Nat) := [
  (3645237208, 1), (3155694800, 2), (2019705670, 3), (891581400, 4), (872058600, 3),
  (862637400, 4), (764145000, 3)]

/-- The zone `Asia/Kolkata`. -/
def kolkata : Zone where
  name := "Asia/Kolkata"
  initial := kolkataOffset 0
  changes := changesOf kolkataOffset kolkataPast []

/-! ## Asia/Kathmandu -/

/-- The offsets of `Asia/Kathmandu`. -/
def kathmanduOffset : Nat → Offset
  | 0 => ⟨20476, "LMT"⟩
  | 1 => ⟨19800, "+0530"⟩
  | _ => ⟨20700, "+0545"⟩

/-- The changes of `Asia/Kathmandu` before 1970. -/
def kathmanduPast : List (Nat × Nat) := [
  (1577943676, 1)]

/-- The changes of `Asia/Kathmandu` from 1970 on. -/
def kathmanduLater : List (Nat × Nat) := [
  (504901800, 2)]

/-- The zone `Asia/Kathmandu`. -/
def kathmandu : Zone where
  name := "Asia/Kathmandu"
  initial := kathmanduOffset 0
  changes := changesOf kathmanduOffset kathmanduPast kathmanduLater

/-! ## America/New_York -/

/-- The offsets of `America/New_York`. -/
def newYorkOffset : Nat → Offset
  | 0 => ⟨-17762, "LMT"⟩
  | 1 => ⟨-18000, "EST"⟩
  | 2 => ⟨-14400, "EDT"⟩
  | 3 => ⟨-14400, "EWT"⟩
  | _ => ⟨-14400, "EPT"⟩

/-- The changes of `America/New_York` before 1970. -/
def newYorkPast : List (Nat × Nat) := [
  (2717650800, 1), (1633280400, 2), (1615140000, 1), (1601830800, 2), (1583690400, 1),
  (1570381200, 2), (1551636000, 1), (1536512400, 2), (1523210400, 1), (1504458000, 2),
  (1491760800, 1), (1473008400, 2), (1459706400, 1), (1441558800, 2), (1428256800, 1),
  (1410109200, 2), (1396807200, 1), (1378659600, 2), (1365357600, 1), (1347210000, 2),
  (1333908000, 1), (1315155600, 2), (1301853600, 1), (1283706000, 2), (1270404000, 1),
  (1252256400, 2), (1238954400, 1), (1220806800, 2), (1207504800, 1), (1189357200, 2),
  (1176055200, 1), (1157302800, 2), (1144605600, 1), (1125853200, 2), (1112551200, 1),
  (1094403600, 2), (1081101600, 1), (1062954000, 2), (1049652000, 1), (1031504400, 2),
  (1018202400, 1), (1000054800, 2), (986752800, 1), (968000400, 2), (955303200, 1), (936550800, 2),
  (923248800, 1), (905101200, 2), (891799200, 1), (880218000, 3), (769395600, 4), (765396000, 1),
  (747248400, 2), (733946400, 1), (715798800, 2), (702496800, 1), (684349200, 2), (671047200, 1),
  (652899600, 2), (639597600, 1), (620845200, 2), (608148000, 1), (589395600, 2), (576093600, 1),
  (557946000, 2), (544644000, 1), (526496400, 2), (513194400, 1), (495046800, 2), (481744800, 1),
  (463597200, 2), (447271200, 1), (431542800, 2), (415821600, 1), (400093200, 2), (384372000, 1),
  (368643600, 2), (352922400, 1), (337194000, 2), (321472800, 1), (305744400, 2), (289418400, 1),
  (273690000, 2), (257968800, 1), (242240400, 2), (226519200, 1), (210790800, 2), (195069600, 1),
  (179341200, 2), (163620000, 1), (147891600, 2), (131565600, 1), (116442000, 2), (100116000, 1),
  (84387600, 2), (68666400, 1), (52938000, 2), (37216800, 1), (21488400, 2), (5767200, 1)]

/-- The changes of `America/New_York` from 1970 on. -/
def newYorkLater : List (Nat × Nat) := [
  (9961200, 2), (25682400, 1), (41410800, 2), (57736800, 1), (73465200, 2), (89186400, 1),
  (104914800, 2), (120636000, 1), (126687600, 2), (152085600, 1), (162370800, 2), (183535200, 1),
  (199263600, 2), (215589600, 1), (230713200, 2), (247039200, 1), (262767600, 2), (278488800, 1),
  (294217200, 2), (309938400, 1), (325666800, 2), (341388000, 1), (357116400, 2), (372837600, 1),
  (388566000, 2), (404892000, 1), (420015600, 2), (436341600, 1), (452070000, 2), (467791200, 1),
  (483519600, 2), (499240800, 1), (514969200, 2), (530690400, 1), (544604400, 2), (562140000, 1),
  (576054000, 2), (594194400, 1), (607503600, 2), (625644000, 1), (638953200, 2), (657093600, 1),
  (671007600, 2), (688543200, 1), (702457200, 2), (719992800, 1), (733906800, 2), (752047200, 1),
  (765356400, 2), (783496800, 1), (796806000, 2), (814946400, 1), (828860400, 2), (846396000, 1),
  (860310000, 2), (877845600, 1), (891759600, 2), (909295200, 1), (923209200, 2), (941349600, 1),
  (954658800, 2), (972799200, 1), (986108400, 2), (1004248800, 1), (1018162800, 2),
  (1035698400, 1), (1049612400, 2), (1067148000, 1), (1081062000, 2), (1099202400, 1),
  (1112511600, 2), (1130652000, 1), (1143961200, 2), (1162101600, 1), (1173596400, 2),
  (1194156000, 1), (1205046000, 2), (1225605600, 1), (1236495600, 2), (1257055200, 1),
  (1268550000, 2), (1289109600, 1), (1299999600, 2), (1320559200, 1), (1331449200, 2),
  (1352008800, 1), (1362898800, 2), (1383458400, 1), (1394348400, 2), (1414908000, 1),
  (1425798000, 2), (1446357600, 1), (1457852400, 2), (1478412000, 1), (1489302000, 2),
  (1509861600, 1), (1520751600, 2), (1541311200, 1), (1552201200, 2), (1572760800, 1),
  (1583650800, 2), (1604210400, 1), (1615705200, 2), (1636264800, 1), (1647154800, 2),
  (1667714400, 1), (1678604400, 2), (1699164000, 1), (1710054000, 2), (1730613600, 1),
  (1741503600, 2), (1762063200, 1), (1772953200, 2), (1793512800, 1), (1805007600, 2),
  (1825567200, 1), (1836457200, 2), (1857016800, 1), (1867906800, 2), (1888466400, 1),
  (1899356400, 2), (1919916000, 1), (1930806000, 2), (1951365600, 1), (1962860400, 2),
  (1983420000, 1), (1994310000, 2), (2014869600, 1), (2025759600, 2), (2046319200, 1),
  (2057209200, 2), (2077768800, 1), (2088658800, 2), (2109218400, 1), (2120108400, 2),
  (2140668000, 1), (2152162800, 2), (2172722400, 1), (2183612400, 2), (2204172000, 1),
  (2215062000, 2), (2235621600, 1), (2246511600, 2), (2267071200, 1), (2277961200, 2),
  (2298520800, 1), (2309410800, 2), (2329970400, 1), (2341465200, 2), (2362024800, 1),
  (2372914800, 2), (2393474400, 1), (2404364400, 2), (2424924000, 1), (2435814000, 2),
  (2456373600, 1), (2467263600, 2), (2487823200, 1), (2499318000, 2), (2519877600, 1),
  (2530767600, 2), (2551327200, 1), (2562217200, 2), (2582776800, 1), (2593666800, 2),
  (2614226400, 1), (2625116400, 2), (2645676000, 1), (2656566000, 2), (2677125600, 1),
  (2688620400, 2), (2709180000, 1), (2720070000, 2), (2740629600, 1), (2751519600, 2),
  (2772079200, 1), (2782969200, 2), (2803528800, 1), (2814418800, 2), (2834978400, 1),
  (2846473200, 2), (2867032800, 1), (2877922800, 2), (2898482400, 1), (2909372400, 2),
  (2929932000, 1), (2940822000, 2), (2961381600, 1), (2972271600, 2), (2992831200, 1),
  (3003721200, 2), (3024280800, 1), (3035775600, 2), (3056335200, 1), (3067225200, 2),
  (3087784800, 1), (3098674800, 2), (3119234400, 1), (3130124400, 2), (3150684000, 1),
  (3161574000, 2), (3182133600, 1), (3193023600, 2), (3213583200, 1), (3225078000, 2),
  (3245637600, 1), (3256527600, 2), (3277087200, 1), (3287977200, 2), (3308536800, 1),
  (3319426800, 2), (3339986400, 1), (3350876400, 2), (3371436000, 1), (3382930800, 2),
  (3403490400, 1), (3414380400, 2), (3434940000, 1), (3445830000, 2), (3466389600, 1),
  (3477279600, 2), (3497839200, 1), (3508729200, 2), (3529288800, 1), (3540178800, 2),
  (3560738400, 1), (3572233200, 2), (3592792800, 1), (3603682800, 2), (3624242400, 1),
  (3635132400, 2), (3655692000, 1), (3666582000, 2), (3687141600, 1), (3698031600, 2),
  (3718591200, 1), (3730086000, 2), (3750645600, 1), (3761535600, 2), (3782095200, 1),
  (3792985200, 2), (3813544800, 1), (3824434800, 2), (3844994400, 1), (3855884400, 2),
  (3876444000, 1), (3887334000, 2), (3907893600, 1), (3919388400, 2), (3939948000, 1),
  (3950838000, 2), (3971397600, 1), (3982287600, 2), (4002847200, 1), (4013737200, 2),
  (4034296800, 1), (4045186800, 2), (4065746400, 1), (4076636400, 2), (4097196000, 1)]

/-- The zone `America/New_York`. -/
def newYork : Zone where
  name := "America/New_York"
  initial := newYorkOffset 0
  changes := changesOf newYorkOffset newYorkPast newYorkLater

/-! ## Europe/London -/

/-- The offsets of `Europe/London`. -/
def londonOffset : Nat → Offset
  | 0 => ⟨-75, "LMT"⟩
  | 1 => ⟨0, "GMT"⟩
  | 2 => ⟨3600, "BST"⟩
  | _ => ⟨7200, "BDST"⟩

/-- The changes of `Europe/London` before 1970. -/
def londonPast : List (Nat × Nat) := [
  (3852662325, 1), (1691964000, 2), (1680472800, 1), (1664143200, 2), (1650146400, 1),
  (1633903200, 2), (1617487200, 1), (1601848800, 2), (1586037600, 1), (1570399200, 2),
  (1552168800, 1), (1538344800, 2), (1522533600, 1), (1507500000, 2), (1490565600, 1),
  (1473631200, 2), (1460930400, 1), (1442786400, 2), (1428876000, 1), (1410732000, 2),
  (1396216800, 1), (1379282400, 2), (1364767200, 1), (1348437600, 2), (1333317600, 1),
  (1315778400, 2), (1301263200, 1), (1284328800, 2), (1269813600, 1), (1253484000, 2),
  (1238364000, 1), (1221429600, 2), (1206914400, 1), (1189980000, 2), (1175464800, 1),
  (1159135200, 2), (1143410400, 1), (1126476000, 2), (1111960800, 1), (1095631200, 2),
  (1080511200, 1), (1063576800, 2), (1049061600, 1), (1032127200, 2), (1017612000, 1),
  (1001282400, 2), (986162400, 1), (969228000, 2), (950479200, 1), (942012000, 2), (904518000, 3),
  (896050800, 2), (875487600, 3), (864601200, 2), (844038000, 3), (832546800, 2), (812588400, 3),
  (798073200, 2), (781052400, 3), (772066800, 2), (764805600, 1), (748476000, 2), (733356000, 1),
  (719445600, 2), (717030000, 3), (706748400, 2), (699487200, 1), (687996000, 2), (668037600, 1),
  (654732000, 2), (636588000, 1), (622072800, 2), (605743200, 1), (590623200, 2), (574293600, 1),
  (558568800, 2), (542239200, 1), (527119200, 2), (512604000, 1), (496274400, 2), (481154400, 1),
  (464220000, 2), (449704800, 1), (432165600, 2), (417650400, 1), (401320800, 2), (386200800, 1),
  (369266400, 2), (354751200, 1), (337816800, 2), (323301600, 1), (306972000, 2), (291852000, 1),
  (276732000, 2), (257983200, 1), (245282400, 2), (226533600, 1), (213228000, 2), (195084000, 1),
  (182383200, 2), (163634400, 1), (150933600, 2), (132184800, 1), (119484000, 2), (100735200, 1),
  (88034400, 2), (68680800, 1), (59004000, 2)]

/-- The changes of `Europe/London` from 1970 on. -/
def londonLater : List (Nat × Nat) := [
  (57722400, 1), (69818400, 2), (89172000, 1), (101268000, 2), (120621600, 1), (132717600, 2),
  (152071200, 1), (164167200, 2), (183520800, 1), (196221600, 2), (214970400, 1), (227671200, 2),
  (246420000, 1), (259120800, 2), (278474400, 1), (290570400, 2), (309924000, 1), (322020000, 2),
  (341373600, 1), (354675600, 2), (372819600, 1), (386125200, 2), (404269200, 1), (417574800, 2),
  (435718800, 1), (449024400, 2), (467773200, 1), (481078800, 2), (499222800, 1), (512528400, 2),
  (530672400, 1), (543978000, 2), (562122000, 1), (575427600, 2), (593571600, 1), (606877200, 2),
  (625626000, 1), (638326800, 2), (657075600, 1), (670381200, 2), (688525200, 1), (701830800, 2),
  (719974800, 1), (733280400, 2), (751424400, 1), (764730000, 2), (782874000, 1), (796179600, 2),
  (814323600, 1), (828234000, 2), (846378000, 1), (859683600, 2), (877827600, 1), (891133200, 2),
  (909277200, 1), (922582800, 2), (941331600, 1), (954032400, 2), (972781200, 1), (985482000, 2),
  (1004230800, 1), (1017536400, 2), (1035680400, 1), (1048986000, 2), (1067130000, 1),
  (1080435600, 2), (1099184400, 1), (1111885200, 2), (1130634000, 1), (1143334800, 2),
  (1162083600, 1), (1174784400, 2), (1193533200, 1), (1206838800, 2), (1224982800, 1),
  (1238288400, 2), (1256432400, 1), (1269738000, 2), (1288486800, 1), (1301187600, 2),
  (1319936400, 1), (1332637200, 2), (1351386000, 1), (1364691600, 2), (1382835600, 1),
  (1396141200, 2), (1414285200, 1), (1427590800, 2), (1445734800, 1), (1459040400, 2),
  (1477789200, 1), (1490490000, 2), (1509238800, 1), (1521939600, 2), (1540688400, 1),
  (1553994000, 2), (1572138000, 1), (1585443600, 2), (1603587600, 1), (1616893200, 2),
  (1635642000, 1), (1648342800, 2), (1667091600, 1), (1679792400, 2), (1698541200, 1),
  (1711846800, 2), (1729990800, 1), (1743296400, 2), (1761440400, 1), (1774746000, 2),
  (1792890000, 1), (1806195600, 2), (1824944400, 1), (1837645200, 2), (1856394000, 1),
  (1869094800, 2), (1887843600, 1), (1901149200, 2), (1919293200, 1), (1932598800, 2),
  (1950742800, 1), (1964048400, 2), (1982797200, 1), (1995498000, 2), (2014246800, 1),
  (2026947600, 2), (2045696400, 1), (2058397200, 2), (2077146000, 1), (2090451600, 2),
  (2108595600, 1), (2121901200, 2), (2140045200, 1), (2153350800, 2), (2172099600, 1),
  (2184800400, 2), (2203549200, 1), (2216250000, 2), (2234998800, 1), (2248304400, 2),
  (2266448400, 1), (2279754000, 2), (2297898000, 1), (2311203600, 2), (2329347600, 1),
  (2342653200, 2), (2361402000, 1), (2374102800, 2), (2392851600, 1), (2405552400, 2),
  (2424301200, 1), (2437606800, 2), (2455750800, 1), (2469056400, 2), (2487200400, 1),
  (2500506000, 2), (2519254800, 1), (2531955600, 2), (2550704400, 1), (2563405200, 2),
  (2582154000, 1), (2595459600, 2), (2613603600, 1), (2626909200, 2), (2645053200, 1),
  (2658358800, 2), (2676502800, 1), (2689808400, 2), (2708557200, 1), (2721258000, 2),
  (2740006800, 1), (2752707600, 2), (2771456400, 1), (2784762000, 2), (2802906000, 1),
  (2816211600, 2), (2834355600, 1), (2847661200, 2), (2866410000, 1), (2879110800, 2),
  (2897859600, 1), (2910560400, 2), (2929309200, 1), (2942010000, 2), (2960758800, 1),
  (2974064400, 2), (2992208400, 1), (3005514000, 2), (3023658000, 1), (3036963600, 2),
  (3055712400, 1), (3068413200, 2), (3087162000, 1), (3099862800, 2), (3118611600, 1),
  (3131917200, 2), (3150061200, 1), (3163366800, 2), (3181510800, 1), (3194816400, 2),
  (3212960400, 1), (3226266000, 2), (3245014800, 1), (3257715600, 2), (3276464400, 1),
  (3289165200, 2), (3307914000, 1), (3321219600, 2), (3339363600, 1), (3352669200, 2),
  (3370813200, 1), (3384118800, 2), (3402867600, 1), (3415568400, 2), (3434317200, 1),
  (3447018000, 2), (3465766800, 1), (3479072400, 2), (3497216400, 1), (3510522000, 2),
  (3528666000, 1), (3541971600, 2), (3560115600, 1), (3573421200, 2), (3592170000, 1),
  (3604870800, 2), (3623619600, 1), (3636320400, 2), (3655069200, 1), (3668374800, 2),
  (3686518800, 1), (3699824400, 2), (3717968400, 1), (3731274000, 2), (3750022800, 1),
  (3762723600, 2), (3781472400, 1), (3794173200, 2), (3812922000, 1), (3825622800, 2),
  (3844371600, 1), (3857677200, 2), (3875821200, 1), (3889126800, 2), (3907270800, 1),
  (3920576400, 2), (3939325200, 1), (3952026000, 2), (3970774800, 1), (3983475600, 2),
  (4002224400, 1), (4015530000, 2), (4033674000, 1), (4046979600, 2), (4065123600, 1),
  (4078429200, 2), (4096573200, 1)]

/-- The zone `Europe/London`. -/
def london : Zone where
  name := "Europe/London"
  initial := londonOffset 0
  changes := changesOf londonOffset londonPast londonLater

/-! ## Australia/Lord_Howe -/

/-- The offsets of `Australia/Lord_Howe`. -/
def lordHoweOffset : Nat → Offset
  | 0 => ⟨38180, "LMT"⟩
  | 1 => ⟨36000, "AEST"⟩
  | 2 => ⟨37800, "+1030"⟩
  | 3 => ⟨41400, "+1130"⟩
  | _ => ⟨39600, "+11"⟩

/-- The changes of `Australia/Lord_Howe` before 1970. -/
def lordHowePast : List (Nat × Nat) := [
  (2364114980, 1)]

/-- The changes of `Australia/Lord_Howe` from 1970 on. -/
def lordHoweLater : List (Nat × Nat) := [
  (352216800, 2), (372785400, 3), (384273000, 2), (404839800, 3), (415722600, 2), (436289400, 3),
  (447172200, 2), (467739000, 3), (478621800, 2), (499188600, 4), (511282800, 2), (530033400, 4),
  (542732400, 2), (562087800, 4), (574786800, 2), (594142200, 4), (606236400, 2), (625591800, 4),
  (636476400, 2), (657041400, 4), (667926000, 2), (688491000, 4), (699375600, 2), (719940600, 4),
  (731430000, 2), (751995000, 4), (762879600, 2), (783444600, 4), (794329200, 2), (814894200, 4),
  (828198000, 2), (846343800, 4), (859647600, 2), (877793400, 4), (891097200, 2), (909243000, 4),
  (922546800, 2), (941297400, 4), (953996400, 2), (967303800, 4), (985446000, 2), (1004196600, 4),
  (1017500400, 2), (1035646200, 4), (1048950000, 2), (1067095800, 4), (1080399600, 2),
  (1099150200, 4), (1111849200, 2), (1130599800, 4), (1143903600, 2), (1162049400, 4),
  (1174748400, 2), (1193499000, 4), (1207407600, 2), (1223134200, 4), (1238857200, 2),
  (1254583800, 4), (1270306800, 2), (1286033400, 4), (1301756400, 2), (1317483000, 4),
  (1333206000, 2), (1349537400, 4), (1365260400, 2), (1380987000, 4), (1396710000, 2),
  (1412436600, 4), (1428159600, 2), (1443886200, 4), (1459609200, 2), (1475335800, 4),
  (1491058800, 2), (1506785400, 4), (1522508400, 2), (1538839800, 4), (1554562800, 2),
  (1570289400, 4), (1586012400, 2), (1601739000, 4), (1617462000, 2), (1633188600, 4),
  (1648911600, 2), (1664638200, 4), (1680361200, 2), (1696087800, 4), (1712415600, 2),
  (1728142200, 4), (1743865200, 2), (1759591800, 4), (1775314800, 2), (1791041400, 4),
  (1806764400, 2), (1822491000, 4), (1838214000, 2), (1853940600, 4), (1869663600, 2),
  (1885995000, 4), (1901718000, 2), (1917444600, 4), (1933167600, 2), (1948894200, 4),
  (1964617200, 2), (1980343800, 4), (1996066800, 2), (2011793400, 4), (2027516400, 2),
  (2043243000, 4), (2058966000, 2), (2075297400, 4), (2091020400, 2), (2106747000, 4),
  (2122470000, 2), (2138196600, 4), (2153919600, 2), (2169646200, 4), (2185369200, 2),
  (2201095800, 4), (2216818800, 2), (2233150200, 4), (2248873200, 2), (2264599800, 4),
  (2280322800, 2), (2296049400, 4), (2311772400, 2), (2327499000, 4), (2343222000, 2),
  (2358948600, 4), (2374671600, 2), (2390398200, 4), (2406121200, 2), (2422452600, 4),
  (2438175600, 2), (2453902200, 4), (2469625200, 2), (2485351800, 4), (2501074800, 2),
  (2516801400, 4), (2532524400, 2), (2548251000, 4), (2563974000, 2), (2579700600, 4),
  (2596028400, 2), (2611755000, 4), (2627478000, 2), (2643204600, 4), (2658927600, 2),
  (2674654200, 4), (2690377200, 2), (2706103800, 4), (2721826800, 2), (2737553400, 4),
  (2753276400, 2), (2769607800, 4), (2785330800, 2), (2801057400, 4), (2816780400, 2),
  (2832507000, 4), (2848230000, 2), (2863956600, 4), (2879679600, 2), (2895406200, 4),
  (2911129200, 2), (2926855800, 4), (2942578800, 2), (2958910200, 4), (2974633200, 2),
  (2990359800, 4), (3006082800, 2), (3021809400, 4), (3037532400, 2), (3053259000, 4),
  (3068982000, 2), (3084708600, 4), (3100431600, 2), (3116763000, 4), (3132486000, 2),
  (3148212600, 4), (3163935600, 2), (3179662200, 4), (3195385200, 2), (3211111800, 4),
  (3226834800, 2), (3242561400, 4), (3258284400, 2), (3274011000, 4), (3289734000, 2),
  (3306065400, 4), (3321788400, 2), (3337515000, 4), (3353238000, 2), (3368964600, 4),
  (3384687600, 2), (3400414200, 4), (3416137200, 2), (3431863800, 4), (3447586800, 2),
  (3463313400, 4), (3479641200, 2), (3495367800, 4), (3511090800, 2), (3526817400, 4),
  (3542540400, 2), (3558267000, 4), (3573990000, 2), (3589716600, 4), (3605439600, 2),
  (3621166200, 4), (3636889200, 2), (3653220600, 4), (3668943600, 2), (3684670200, 4),
  (3700393200, 2), (3716119800, 4), (3731842800, 2), (3747569400, 4), (3763292400, 2),
  (3779019000, 4), (3794742000, 2), (3810468600, 4), (3826191600, 2), (3842523000, 4),
  (3858246000, 2), (3873972600, 4), (3889695600, 2), (3905422200, 4), (3921145200, 2),
  (3936871800, 4), (3952594800, 2), (3968321400, 4), (3984044400, 2), (4000375800, 4),
  (4016098800, 2), (4031825400, 4), (4047548400, 2), (4063275000, 4), (4078998000, 2),
  (4094724600, 4)]

/-- The zone `Australia/Lord_Howe`. -/
def lordHowe : Zone where
  name := "Australia/Lord_Howe"
  initial := lordHoweOffset 0
  changes := changesOf lordHoweOffset lordHowePast lordHoweLater

/-! ## America/Sao_Paulo -/

/-- The offsets of `America/Sao_Paulo`. -/
def saoPauloOffset : Nat → Offset
  | 0 => ⟨-11188, "LMT"⟩
  | 1 => ⟨-10800, "-03"⟩
  | _ => ⟨-7200, "-02"⟩

/-- The changes of `America/Sao_Paulo` before 1970. -/
def saoPauloPast : List (Nat × Nat) := [
  (1767214412, 1), (1206957600, 2), (1191362400, 1), (1175374800, 2), (1159826400, 1),
  (633819600, 2), (622069200, 1), (602283600, 2), (591832800, 1), (570747600, 2), (560210400, 1),
  (539125200, 2), (531352800, 1), (195426000, 2), (184197600, 1), (155163600, 2), (150069600, 1),
  (128898000, 2), (121125600, 1), (99954000, 2), (89589600, 1), (68418000, 2), (57967200, 1)]

/-- The changes of `America/Sao_Paulo` from 1970 on. -/
def saoPauloLater : List (Nat × Nat) := [
  (499748400, 2), (511236000, 1), (530593200, 2), (540266400, 1), (562129200, 2), (571197600, 1),
  (592974000, 2), (602042400, 1), (624423600, 2), (634701600, 1), (656478000, 2), (666756000, 1),
  (687927600, 2), (697600800, 1), (719982000, 2), (728445600, 1), (750826800, 2), (761709600, 1),
  (782276400, 2), (793159200, 1), (813726000, 2), (824004000, 1), (844570800, 2), (856058400, 1),
  (876106800, 2), (888717600, 1), (908074800, 2), (919562400, 1), (938919600, 2), (951616800, 1),
  (970974000, 2), (982461600, 1), (1003028400, 2), (1013911200, 1), (1036292400, 2),
  (1045360800, 1), (1066532400, 2), (1076810400, 1), (1099364400, 2), (1108864800, 1),
  (1129431600, 2), (1140314400, 1), (1162695600, 2), (1172368800, 1), (1192330800, 2),
  (1203213600, 1), (1224385200, 2), (1234663200, 1), (1255834800, 2), (1266717600, 1),
  (1287284400, 2), (1298167200, 1), (1318734000, 2), (1330221600, 1), (1350788400, 2),
  (1361066400, 1), (1382238000, 2), (1392516000, 1), (1413687600, 2), (1424570400, 1),
  (1445137200, 2), (1456020000, 1), (1476586800, 2), (1487469600, 1), (1508036400, 2),
  (1518919200, 1), (1541300400, 2), (1550368800, 1)]

/-- The zone `America/Sao_Paulo`. -/
def saoPaulo : Zone where
  name := "America/Sao_Paulo"
  initial := saoPauloOffset 0
  changes := changesOf saoPauloOffset saoPauloPast saoPauloLater

/-! ## Pacific/Apia -/

/-- The offsets of `Pacific/Apia`. -/
def apiaOffset : Nat → Offset
  | 0 => ⟨45184, "LMT"⟩
  | 1 => ⟨-41216, "LMT"⟩
  | 2 => ⟨-41400, "-1130"⟩
  | 3 => ⟨-39600, "-11"⟩
  | 4 => ⟨-36000, "-10"⟩
  | 5 => ⟨50400, "+14"⟩
  | _ => ⟨46800, "+13"⟩

/-- The changes of `Pacific/Apia` before 1970. -/
def apiaPast : List (Nat × Nat) := [
  (2445424384, 1), (1861878784, 2), (631110600, 3)]

/-- The changes of `Pacific/Apia` from 1970 on. -/
def apiaLater : List (Nat × Nat) := [
  (1285498800, 4), (1301752800, 3), (1316872800, 4), (1325239200, 5), (1333202400, 6),
  (1348927200, 5), (1365256800, 6), (1380376800, 5), (1396706400, 6), (1411826400, 5),
  (1428156000, 6), (1443276000, 5), (1459605600, 6), (1474725600, 5), (1491055200, 6),
  (1506175200, 5), (1522504800, 6), (1538229600, 5), (1554559200, 6), (1569679200, 5),
  (1586008800, 6), (1601128800, 5), (1617458400, 6)]

/-- The zone `Pacific/Apia`. -/
def apia : Zone where
  name := "Pacific/Apia"
  initial := apiaOffset 0
  changes := changesOf apiaOffset apiaPast apiaLater

/-! ## Pacific/Kiritimati -/

/-- The offsets of `Pacific/Kiritimati`. -/
def kiritimatiOffset : Nat → Offset
  | 0 => ⟨-37760, "LMT"⟩
  | 1 => ⟨-38400, "-1040"⟩
  | 2 => ⟨-36000, "-10"⟩
  | _ => ⟨50400, "+14"⟩

/-- The changes of `Pacific/Kiritimati` before 1970. -/
def kiritimatiPast : List (Nat × Nat) := [
  (2177415040, 1)]

/-- The changes of `Pacific/Kiritimati` from 1970 on. -/
def kiritimatiLater : List (Nat × Nat) := [
  (307622400, 2), (788868000, 3)]

/-- The zone `Pacific/Kiritimati`. -/
def kiritimati : Zone where
  name := "Pacific/Kiritimati"
  initial := kiritimatiOffset 0
  changes := changesOf kiritimatiOffset kiritimatiPast kiritimatiLater

/-! ## All of them -/

/-- The known zones. -/
def all : List Zone :=
  [utc, gmt, fiveBehind, fourteenAhead, shanghai, kolkata, kathmandu,
    newYork, london, lordHowe, saoPaulo, apia, kiritimati]

instance : ZoneTable where
  find? name := all.find? fun z ↦ z.name == name

end WhereClause.Calendar.Zone
