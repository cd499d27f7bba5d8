/-!
Case data of the Unicode Character Database (version 17.0): the derived properties
Uppercase and Lowercase as ranges of code points, and the full case mappings.

A range `(lo, hi)` holds the code points `lo ≤ c < hi`. A shifted range `(lo, hi, target)`
maps `c` to `target + (c - lo)`; code points that no range covers map to themselves. A code
point whose mapping has more than one character is listed with its whole image.
-/

namespace Metamodel.Text.CaseTable

/-- Code point ranges with the derived property Uppercase. -/
def uppercase : Array (Nat × Nat) := #[
  (65, 91), (192, 215), (216, 223), (256, 257), (258, 259), (260, 261), (262, 263), (264, 265),
  (266, 267), (268, 269), (270, 271), (272, 273), (274, 275), (276, 277), (278, 279), (280, 281),
  (282, 283), (284, 285), (286, 287), (288, 289), (290, 291), (292, 293), (294, 295), (296, 297),
  (298, 299), (300, 301), (302, 303), (304, 305), (306, 307), (308, 309), (310, 311), (313, 314),
  (315, 316), (317, 318), (319, 320), (321, 322), (323, 324), (325, 326), (327, 328), (330, 331),
  (332, 333), (334, 335), (336, 337), (338, 339), (340, 341), (342, 343), (344, 345), (346, 347),
  (348, 349), (350, 351), (352, 353), (354, 355), (356, 357), (358, 359), (360, 361), (362, 363),
  (364, 365), (366, 367), (368, 369), (370, 371), (372, 373), (374, 375), (376, 378), (379, 380),
  (381, 382), (385, 387), (388, 389), (390, 392), (393, 396), (398, 402), (403, 405), (406, 409),
  (412, 414), (415, 417), (418, 419), (420, 421), (422, 424), (425, 426), (428, 429), (430, 432),
  (433, 436), (437, 438), (439, 441), (444, 445), (452, 453), (455, 456), (458, 459), (461, 462),
  (463, 464), (465, 466), (467, 468), (469, 470), (471, 472), (473, 474), (475, 476), (478, 479),
  (480, 481), (482, 483), (484, 485), (486, 487), (488, 489), (490, 491), (492, 493), (494, 495),
  (497, 498), (500, 501), (502, 505), (506, 507), (508, 509), (510, 511), (512, 513), (514, 515),
  (516, 517), (518, 519), (520, 521), (522, 523), (524, 525), (526, 527), (528, 529), (530, 531),
  (532, 533), (534, 535), (536, 537), (538, 539), (540, 541), (542, 543), (544, 545), (546, 547),
  (548, 549), (550, 551), (552, 553), (554, 555), (556, 557), (558, 559), (560, 561), (562, 563),
  (570, 572), (573, 575), (577, 578), (579, 583), (584, 585), (586, 587), (588, 589), (590, 591),
  (880, 881), (882, 883), (886, 887), (895, 896), (902, 903), (904, 907), (908, 909), (910, 912),
  (913, 930), (931, 940), (975, 976), (978, 981), (984, 985), (986, 987), (988, 989), (990, 991),
  (992, 993), (994, 995), (996, 997), (998, 999), (1000, 1001), (1002, 1003), (1004, 1005), (1006, 1007),
  (1012, 1013), (1015, 1016), (1017, 1019), (1021, 1072), (1120, 1121), (1122, 1123), (1124, 1125), (1126, 1127),
  (1128, 1129), (1130, 1131), (1132, 1133), (1134, 1135), (1136, 1137), (1138, 1139), (1140, 1141), (1142, 1143),
  (1144, 1145), (1146, 1147), (1148, 1149), (1150, 1151), (1152, 1153), (1162, 1163), (1164, 1165), (1166, 1167),
  (1168, 1169), (1170, 1171), (1172, 1173), (1174, 1175), (1176, 1177), (1178, 1179), (1180, 1181), (1182, 1183),
  (1184, 1185), (1186, 1187), (1188, 1189), (1190, 1191), (1192, 1193), (1194, 1195), (1196, 1197), (1198, 1199),
  (1200, 1201), (1202, 1203), (1204, 1205), (1206, 1207), (1208, 1209), (1210, 1211), (1212, 1213), (1214, 1215),
  (1216, 1218), (1219, 1220), (1221, 1222), (1223, 1224), (1225, 1226), (1227, 1228), (1229, 1230), (1232, 1233),
  (1234, 1235), (1236, 1237), (1238, 1239), (1240, 1241), (1242, 1243), (1244, 1245), (1246, 1247), (1248, 1249),
  (1250, 1251), (1252, 1253), (1254, 1255), (1256, 1257), (1258, 1259), (1260, 1261), (1262, 1263), (1264, 1265),
  (1266, 1267), (1268, 1269), (1270, 1271), (1272, 1273), (1274, 1275), (1276, 1277), (1278, 1279), (1280, 1281),
  (1282, 1283), (1284, 1285), (1286, 1287), (1288, 1289), (1290, 1291), (1292, 1293), (1294, 1295), (1296, 1297),
  (1298, 1299), (1300, 1301), (1302, 1303), (1304, 1305), (1306, 1307), (1308, 1309), (1310, 1311), (1312, 1313),
  (1314, 1315), (1316, 1317), (1318, 1319), (1320, 1321), (1322, 1323), (1324, 1325), (1326, 1327), (1329, 1367),
  (4256, 4294), (4295, 4296), (4301, 4302), (5024, 5110), (7305, 7306), (7312, 7355), (7357, 7360), (7680, 7681),
  (7682, 7683), (7684, 7685), (7686, 7687), (7688, 7689), (7690, 7691), (7692, 7693), (7694, 7695), (7696, 7697),
  (7698, 7699), (7700, 7701), (7702, 7703), (7704, 7705), (7706, 7707), (7708, 7709), (7710, 7711), (7712, 7713),
  (7714, 7715), (7716, 7717), (7718, 7719), (7720, 7721), (7722, 7723), (7724, 7725), (7726, 7727), (7728, 7729),
  (7730, 7731), (7732, 7733), (7734, 7735), (7736, 7737), (7738, 7739), (7740, 7741), (7742, 7743), (7744, 7745),
  (7746, 7747), (7748, 7749), (7750, 7751), (7752, 7753), (7754, 7755), (7756, 7757), (7758, 7759), (7760, 7761),
  (7762, 7763), (7764, 7765), (7766, 7767), (7768, 7769), (7770, 7771), (7772, 7773), (7774, 7775), (7776, 7777),
  (7778, 7779), (7780, 7781), (7782, 7783), (7784, 7785), (7786, 7787), (7788, 7789), (7790, 7791), (7792, 7793),
  (7794, 7795), (7796, 7797), (7798, 7799), (7800, 7801), (7802, 7803), (7804, 7805), (7806, 7807), (7808, 7809),
  (7810, 7811), (7812, 7813), (7814, 7815), (7816, 7817), (7818, 7819), (7820, 7821), (7822, 7823), (7824, 7825),
  (7826, 7827), (7828, 7829), (7838, 7839), (7840, 7841), (7842, 7843), (7844, 7845), (7846, 7847), (7848, 7849),
  (7850, 7851), (7852, 7853), (7854, 7855), (7856, 7857), (7858, 7859), (7860, 7861), (7862, 7863), (7864, 7865),
  (7866, 7867), (7868, 7869), (7870, 7871), (7872, 7873), (7874, 7875), (7876, 7877), (7878, 7879), (7880, 7881),
  (7882, 7883), (7884, 7885), (7886, 7887), (7888, 7889), (7890, 7891), (7892, 7893), (7894, 7895), (7896, 7897),
  (7898, 7899), (7900, 7901), (7902, 7903), (7904, 7905), (7906, 7907), (7908, 7909), (7910, 7911), (7912, 7913),
  (7914, 7915), (7916, 7917), (7918, 7919), (7920, 7921), (7922, 7923), (7924, 7925), (7926, 7927), (7928, 7929),
  (7930, 7931), (7932, 7933), (7934, 7935), (7944, 7952), (7960, 7966), (7976, 7984), (7992, 8000), (8008, 8014),
  (8025, 8026), (8027, 8028), (8029, 8030), (8031, 8032), (8040, 8048), (8120, 8124), (8136, 8140), (8152, 8156),
  (8168, 8173), (8184, 8188), (8450, 8451), (8455, 8456), (8459, 8462), (8464, 8467), (8469, 8470), (8473, 8478),
  (8484, 8485), (8486, 8487), (8488, 8489), (8490, 8494), (8496, 8500), (8510, 8512), (8517, 8518), (8544, 8560),
  (8579, 8580), (9398, 9424), (11264, 11312), (11360, 11361), (11362, 11365), (11367, 11368), (11369, 11370), (11371, 11372),
  (11373, 11377), (11378, 11379), (11381, 11382), (11390, 11393), (11394, 11395), (11396, 11397), (11398, 11399), (11400, 11401),
  (11402, 11403), (11404, 11405), (11406, 11407), (11408, 11409), (11410, 11411), (11412, 11413), (11414, 11415), (11416, 11417),
  (11418, 11419), (11420, 11421), (11422, 11423), (11424, 11425), (11426, 11427), (11428, 11429), (11430, 11431), (11432, 11433),
  (11434, 11435), (11436, 11437), (11438, 11439), (11440, 11441), (11442, 11443), (11444, 11445), (11446, 11447), (11448, 11449),
  (11450, 11451), (11452, 11453), (11454, 11455), (11456, 11457), (11458, 11459), (11460, 11461), (11462, 11463), (11464, 11465),
  (11466, 11467), (11468, 11469), (11470, 11471), (11472, 11473), (11474, 11475), (11476, 11477), (11478, 11479), (11480, 11481),
  (11482, 11483), (11484, 11485), (11486, 11487), (11488, 11489), (11490, 11491), (11499, 11500), (11501, 11502), (11506, 11507),
  (42560, 42561), (42562, 42563), (42564, 42565), (42566, 42567), (42568, 42569), (42570, 42571), (42572, 42573), (42574, 42575),
  (42576, 42577), (42578, 42579), (42580, 42581), (42582, 42583), (42584, 42585), (42586, 42587), (42588, 42589), (42590, 42591),
  (42592, 42593), (42594, 42595), (42596, 42597), (42598, 42599), (42600, 42601), (42602, 42603), (42604, 42605), (42624, 42625),
  (42626, 42627), (42628, 42629), (42630, 42631), (42632, 42633), (42634, 42635), (42636, 42637), (42638, 42639), (42640, 42641),
  (42642, 42643), (42644, 42645), (42646, 42647), (42648, 42649), (42650, 42651), (42786, 42787), (42788, 42789), (42790, 42791),
  (42792, 42793), (42794, 42795), (42796, 42797), (42798, 42799), (42802, 42803), (42804, 42805), (42806, 42807), (42808, 42809),
  (42810, 42811), (42812, 42813), (42814, 42815), (42816, 42817), (42818, 42819), (42820, 42821), (42822, 42823), (42824, 42825),
  (42826, 42827), (42828, 42829), (42830, 42831), (42832, 42833), (42834, 42835), (42836, 42837), (42838, 42839), (42840, 42841),
  (42842, 42843), (42844, 42845), (42846, 42847), (42848, 42849), (42850, 42851), (42852, 42853), (42854, 42855), (42856, 42857),
  (42858, 42859), (42860, 42861), (42862, 42863), (42873, 42874), (42875, 42876), (42877, 42879), (42880, 42881), (42882, 42883),
  (42884, 42885), (42886, 42887), (42891, 42892), (42893, 42894), (42896, 42897), (42898, 42899), (42902, 42903), (42904, 42905),
  (42906, 42907), (42908, 42909), (42910, 42911), (42912, 42913), (42914, 42915), (42916, 42917), (42918, 42919), (42920, 42921),
  (42922, 42927), (42928, 42933), (42934, 42935), (42936, 42937), (42938, 42939), (42940, 42941), (42942, 42943), (42944, 42945),
  (42946, 42947), (42948, 42952), (42953, 42954), (42955, 42957), (42958, 42959), (42960, 42961), (42962, 42963), (42964, 42965),
  (42966, 42967), (42968, 42969), (42970, 42971), (42972, 42973), (42997, 42998), (65313, 65339), (66560, 66600), (66736, 66772),
  (66928, 66939), (66940, 66955), (66956, 66963), (66964, 66966), (68736, 68787), (68944, 68966), (71840, 71872), (93760, 93792),
  (93856, 93881), (119808, 119834), (119860, 119886), (119912, 119938), (119964, 119965), (119966, 119968), (119970, 119971), (119973, 119975),
  (119977, 119981), (119982, 119990), (120016, 120042), (120068, 120070), (120071, 120075), (120077, 120085), (120086, 120093), (120120, 120122),
  (120123, 120127), (120128, 120133), (120134, 120135), (120138, 120145), (120172, 120198), (120224, 120250), (120276, 120302), (120328, 120354),
  (120380, 120406), (120432, 120458), (120488, 120513), (120546, 120571), (120604, 120629), (120662, 120687), (120720, 120745), (120778, 120779),
  (125184, 125218), (127280, 127306), (127312, 127338), (127344, 127370)]

/-- Code point ranges with the derived property Lowercase. -/
def lowercase : Array (Nat × Nat) := #[
  (97, 123), (170, 171), (181, 182), (186, 187), (223, 247), (248, 256), (257, 258), (259, 260),
  (261, 262), (263, 264), (265, 266), (267, 268), (269, 270), (271, 272), (273, 274), (275, 276),
  (277, 278), (279, 280), (281, 282), (283, 284), (285, 286), (287, 288), (289, 290), (291, 292),
  (293, 294), (295, 296), (297, 298), (299, 300), (301, 302), (303, 304), (305, 306), (307, 308),
  (309, 310), (311, 313), (314, 315), (316, 317), (318, 319), (320, 321), (322, 323), (324, 325),
  (326, 327), (328, 330), (331, 332), (333, 334), (335, 336), (337, 338), (339, 340), (341, 342),
  (343, 344), (345, 346), (347, 348), (349, 350), (351, 352), (353, 354), (355, 356), (357, 358),
  (359, 360), (361, 362), (363, 364), (365, 366), (367, 368), (369, 370), (371, 372), (373, 374),
  (375, 376), (378, 379), (380, 381), (382, 385), (387, 388), (389, 390), (392, 393), (396, 398),
  (402, 403), (405, 406), (409, 412), (414, 415), (417, 418), (419, 420), (421, 422), (424, 425),
  (426, 428), (429, 430), (432, 433), (436, 437), (438, 439), (441, 443), (445, 448), (454, 455),
  (457, 458), (460, 461), (462, 463), (464, 465), (466, 467), (468, 469), (470, 471), (472, 473),
  (474, 475), (476, 478), (479, 480), (481, 482), (483, 484), (485, 486), (487, 488), (489, 490),
  (491, 492), (493, 494), (495, 497), (499, 500), (501, 502), (505, 506), (507, 508), (509, 510),
  (511, 512), (513, 514), (515, 516), (517, 518), (519, 520), (521, 522), (523, 524), (525, 526),
  (527, 528), (529, 530), (531, 532), (533, 534), (535, 536), (537, 538), (539, 540), (541, 542),
  (543, 544), (545, 546), (547, 548), (549, 550), (551, 552), (553, 554), (555, 556), (557, 558),
  (559, 560), (561, 562), (563, 570), (572, 573), (575, 577), (578, 579), (583, 584), (585, 586),
  (587, 588), (589, 590), (591, 660), (662, 697), (704, 706), (736, 741), (837, 838), (881, 882),
  (883, 884), (887, 888), (890, 894), (912, 913), (940, 975), (976, 978), (981, 984), (985, 986),
  (987, 988), (989, 990), (991, 992), (993, 994), (995, 996), (997, 998), (999, 1000), (1001, 1002),
  (1003, 1004), (1005, 1006), (1007, 1012), (1013, 1014), (1016, 1017), (1019, 1021), (1072, 1120), (1121, 1122),
  (1123, 1124), (1125, 1126), (1127, 1128), (1129, 1130), (1131, 1132), (1133, 1134), (1135, 1136), (1137, 1138),
  (1139, 1140), (1141, 1142), (1143, 1144), (1145, 1146), (1147, 1148), (1149, 1150), (1151, 1152), (1153, 1154),
  (1163, 1164), (1165, 1166), (1167, 1168), (1169, 1170), (1171, 1172), (1173, 1174), (1175, 1176), (1177, 1178),
  (1179, 1180), (1181, 1182), (1183, 1184), (1185, 1186), (1187, 1188), (1189, 1190), (1191, 1192), (1193, 1194),
  (1195, 1196), (1197, 1198), (1199, 1200), (1201, 1202), (1203, 1204), (1205, 1206), (1207, 1208), (1209, 1210),
  (1211, 1212), (1213, 1214), (1215, 1216), (1218, 1219), (1220, 1221), (1222, 1223), (1224, 1225), (1226, 1227),
  (1228, 1229), (1230, 1232), (1233, 1234), (1235, 1236), (1237, 1238), (1239, 1240), (1241, 1242), (1243, 1244),
  (1245, 1246), (1247, 1248), (1249, 1250), (1251, 1252), (1253, 1254), (1255, 1256), (1257, 1258), (1259, 1260),
  (1261, 1262), (1263, 1264), (1265, 1266), (1267, 1268), (1269, 1270), (1271, 1272), (1273, 1274), (1275, 1276),
  (1277, 1278), (1279, 1280), (1281, 1282), (1283, 1284), (1285, 1286), (1287, 1288), (1289, 1290), (1291, 1292),
  (1293, 1294), (1295, 1296), (1297, 1298), (1299, 1300), (1301, 1302), (1303, 1304), (1305, 1306), (1307, 1308),
  (1309, 1310), (1311, 1312), (1313, 1314), (1315, 1316), (1317, 1318), (1319, 1320), (1321, 1322), (1323, 1324),
  (1325, 1326), (1327, 1328), (1376, 1417), (4304, 4347), (4348, 4352), (5112, 5118), (7296, 7305), (7306, 7307),
  (7424, 7616), (7681, 7682), (7683, 7684), (7685, 7686), (7687, 7688), (7689, 7690), (7691, 7692), (7693, 7694),
  (7695, 7696), (7697, 7698), (7699, 7700), (7701, 7702), (7703, 7704), (7705, 7706), (7707, 7708), (7709, 7710),
  (7711, 7712), (7713, 7714), (7715, 7716), (7717, 7718), (7719, 7720), (7721, 7722), (7723, 7724), (7725, 7726),
  (7727, 7728), (7729, 7730), (7731, 7732), (7733, 7734), (7735, 7736), (7737, 7738), (7739, 7740), (7741, 7742),
  (7743, 7744), (7745, 7746), (7747, 7748), (7749, 7750), (7751, 7752), (7753, 7754), (7755, 7756), (7757, 7758),
  (7759, 7760), (7761, 7762), (7763, 7764), (7765, 7766), (7767, 7768), (7769, 7770), (7771, 7772), (7773, 7774),
  (7775, 7776), (7777, 7778), (7779, 7780), (7781, 7782), (7783, 7784), (7785, 7786), (7787, 7788), (7789, 7790),
  (7791, 7792), (7793, 7794), (7795, 7796), (7797, 7798), (7799, 7800), (7801, 7802), (7803, 7804), (7805, 7806),
  (7807, 7808), (7809, 7810), (7811, 7812), (7813, 7814), (7815, 7816), (7817, 7818), (7819, 7820), (7821, 7822),
  (7823, 7824), (7825, 7826), (7827, 7828), (7829, 7838), (7839, 7840), (7841, 7842), (7843, 7844), (7845, 7846),
  (7847, 7848), (7849, 7850), (7851, 7852), (7853, 7854), (7855, 7856), (7857, 7858), (7859, 7860), (7861, 7862),
  (7863, 7864), (7865, 7866), (7867, 7868), (7869, 7870), (7871, 7872), (7873, 7874), (7875, 7876), (7877, 7878),
  (7879, 7880), (7881, 7882), (7883, 7884), (7885, 7886), (7887, 7888), (7889, 7890), (7891, 7892), (7893, 7894),
  (7895, 7896), (7897, 7898), (7899, 7900), (7901, 7902), (7903, 7904), (7905, 7906), (7907, 7908), (7909, 7910),
  (7911, 7912), (7913, 7914), (7915, 7916), (7917, 7918), (7919, 7920), (7921, 7922), (7923, 7924), (7925, 7926),
  (7927, 7928), (7929, 7930), (7931, 7932), (7933, 7934), (7935, 7944), (7952, 7958), (7968, 7976), (7984, 7992),
  (8000, 8006), (8016, 8024), (8032, 8040), (8048, 8062), (8064, 8072), (8080, 8088), (8096, 8104), (8112, 8117),
  (8118, 8120), (8126, 8127), (8130, 8133), (8134, 8136), (8144, 8148), (8150, 8152), (8160, 8168), (8178, 8181),
  (8182, 8184), (8305, 8306), (8319, 8320), (8336, 8349), (8458, 8459), (8462, 8464), (8467, 8468), (8495, 8496),
  (8500, 8501), (8505, 8506), (8508, 8510), (8518, 8522), (8526, 8527), (8560, 8576), (8580, 8581), (9424, 9450),
  (11312, 11360), (11361, 11362), (11365, 11367), (11368, 11369), (11370, 11371), (11372, 11373), (11377, 11378), (11379, 11381),
  (11382, 11390), (11393, 11394), (11395, 11396), (11397, 11398), (11399, 11400), (11401, 11402), (11403, 11404), (11405, 11406),
  (11407, 11408), (11409, 11410), (11411, 11412), (11413, 11414), (11415, 11416), (11417, 11418), (11419, 11420), (11421, 11422),
  (11423, 11424), (11425, 11426), (11427, 11428), (11429, 11430), (11431, 11432), (11433, 11434), (11435, 11436), (11437, 11438),
  (11439, 11440), (11441, 11442), (11443, 11444), (11445, 11446), (11447, 11448), (11449, 11450), (11451, 11452), (11453, 11454),
  (11455, 11456), (11457, 11458), (11459, 11460), (11461, 11462), (11463, 11464), (11465, 11466), (11467, 11468), (11469, 11470),
  (11471, 11472), (11473, 11474), (11475, 11476), (11477, 11478), (11479, 11480), (11481, 11482), (11483, 11484), (11485, 11486),
  (11487, 11488), (11489, 11490), (11491, 11493), (11500, 11501), (11502, 11503), (11507, 11508), (11520, 11558), (11559, 11560),
  (11565, 11566), (42561, 42562), (42563, 42564), (42565, 42566), (42567, 42568), (42569, 42570), (42571, 42572), (42573, 42574),
  (42575, 42576), (42577, 42578), (42579, 42580), (42581, 42582), (42583, 42584), (42585, 42586), (42587, 42588), (42589, 42590),
  (42591, 42592), (42593, 42594), (42595, 42596), (42597, 42598), (42599, 42600), (42601, 42602), (42603, 42604), (42605, 42606),
  (42625, 42626), (42627, 42628), (42629, 42630), (42631, 42632), (42633, 42634), (42635, 42636), (42637, 42638), (42639, 42640),
  (42641, 42642), (42643, 42644), (42645, 42646), (42647, 42648), (42649, 42650), (42651, 42654), (42787, 42788), (42789, 42790),
  (42791, 42792), (42793, 42794), (42795, 42796), (42797, 42798), (42799, 42802), (42803, 42804), (42805, 42806), (42807, 42808),
  (42809, 42810), (42811, 42812), (42813, 42814), (42815, 42816), (42817, 42818), (42819, 42820), (42821, 42822), (42823, 42824),
  (42825, 42826), (42827, 42828), (42829, 42830), (42831, 42832), (42833, 42834), (42835, 42836), (42837, 42838), (42839, 42840),
  (42841, 42842), (42843, 42844), (42845, 42846), (42847, 42848), (42849, 42850), (42851, 42852), (42853, 42854), (42855, 42856),
  (42857, 42858), (42859, 42860), (42861, 42862), (42863, 42873), (42874, 42875), (42876, 42877), (42879, 42880), (42881, 42882),
  (42883, 42884), (42885, 42886), (42887, 42888), (42892, 42893), (42894, 42895), (42897, 42898), (42899, 42902), (42903, 42904),
  (42905, 42906), (42907, 42908), (42909, 42910), (42911, 42912), (42913, 42914), (42915, 42916), (42917, 42918), (42919, 42920),
  (42921, 42922), (42927, 42928), (42933, 42934), (42935, 42936), (42937, 42938), (42939, 42940), (42941, 42942), (42943, 42944),
  (42945, 42946), (42947, 42948), (42952, 42953), (42954, 42955), (42957, 42958), (42959, 42960), (42961, 42962), (42963, 42964),
  (42965, 42966), (42967, 42968), (42969, 42970), (42971, 42972), (42993, 42997), (42998, 42999), (43000, 43003), (43824, 43867),
  (43868, 43882), (43888, 43968), (64256, 64263), (64275, 64280), (65345, 65371), (66600, 66640), (66776, 66812), (66967, 66978),
  (66979, 66994), (66995, 67002), (67003, 67005), (67456, 67457), (67459, 67462), (67463, 67505), (67506, 67515), (68800, 68851),
  (68976, 68998), (71872, 71904), (93792, 93824), (93883, 93908), (119834, 119860), (119886, 119893), (119894, 119912), (119938, 119964),
  (119990, 119994), (119995, 119996), (119997, 120004), (120005, 120016), (120042, 120068), (120094, 120120), (120146, 120172), (120198, 120224),
  (120250, 120276), (120302, 120328), (120354, 120380), (120406, 120432), (120458, 120486), (120514, 120539), (120540, 120546), (120572, 120597),
  (120598, 120604), (120630, 120655), (120656, 120662), (120688, 120713), (120714, 120720), (120746, 120771), (120772, 120778), (120779, 120780),
  (122624, 122634), (122635, 122655), (122661, 122667), (122928, 122990), (125218, 125252)]

/-- Shifted ranges of the single-character lowercase mapping. -/
def toLowerShifts : Array (Nat × Nat × Nat) := #[
  (65, 91, 97), (192, 215, 224), (216, 223, 248), (256, 257, 257), (258, 259, 259), (260, 261, 261),
  (262, 263, 263), (264, 265, 265), (266, 267, 267), (268, 269, 269), (270, 271, 271), (272, 273, 273),
  (274, 275, 275), (276, 277, 277), (278, 279, 279), (280, 281, 281), (282, 283, 283), (284, 285, 285),
  (286, 287, 287), (288, 289, 289), (290, 291, 291), (292, 293, 293), (294, 295, 295), (296, 297, 297),
  (298, 299, 299), (300, 301, 301), (302, 303, 303), (306, 307, 307), (308, 309, 309), (310, 311, 311),
  (313, 314, 314), (315, 316, 316), (317, 318, 318), (319, 320, 320), (321, 322, 322), (323, 324, 324),
  (325, 326, 326), (327, 328, 328), (330, 331, 331), (332, 333, 333), (334, 335, 335), (336, 337, 337),
  (338, 339, 339), (340, 341, 341), (342, 343, 343), (344, 345, 345), (346, 347, 347), (348, 349, 349),
  (350, 351, 351), (352, 353, 353), (354, 355, 355), (356, 357, 357), (358, 359, 359), (360, 361, 361),
  (362, 363, 363), (364, 365, 365), (366, 367, 367), (368, 369, 369), (370, 371, 371), (372, 373, 373),
  (374, 375, 375), (376, 377, 255), (377, 378, 378), (379, 380, 380), (381, 382, 382), (385, 386, 595),
  (386, 387, 387), (388, 389, 389), (390, 391, 596), (391, 392, 392), (393, 395, 598), (395, 396, 396),
  (398, 399, 477), (399, 400, 601), (400, 401, 603), (401, 402, 402), (403, 404, 608), (404, 405, 611),
  (406, 407, 617), (407, 408, 616), (408, 409, 409), (412, 413, 623), (413, 414, 626), (415, 416, 629),
  (416, 417, 417), (418, 419, 419), (420, 421, 421), (422, 423, 640), (423, 424, 424), (425, 426, 643),
  (428, 429, 429), (430, 431, 648), (431, 432, 432), (433, 435, 650), (435, 436, 436), (437, 438, 438),
  (439, 440, 658), (440, 441, 441), (444, 445, 445), (452, 453, 454), (453, 454, 454), (455, 456, 457),
  (456, 457, 457), (458, 459, 460), (459, 460, 460), (461, 462, 462), (463, 464, 464), (465, 466, 466),
  (467, 468, 468), (469, 470, 470), (471, 472, 472), (473, 474, 474), (475, 476, 476), (478, 479, 479),
  (480, 481, 481), (482, 483, 483), (484, 485, 485), (486, 487, 487), (488, 489, 489), (490, 491, 491),
  (492, 493, 493), (494, 495, 495), (497, 498, 499), (498, 499, 499), (500, 501, 501), (502, 503, 405),
  (503, 504, 447), (504, 505, 505), (506, 507, 507), (508, 509, 509), (510, 511, 511), (512, 513, 513),
  (514, 515, 515), (516, 517, 517), (518, 519, 519), (520, 521, 521), (522, 523, 523), (524, 525, 525),
  (526, 527, 527), (528, 529, 529), (530, 531, 531), (532, 533, 533), (534, 535, 535), (536, 537, 537),
  (538, 539, 539), (540, 541, 541), (542, 543, 543), (544, 545, 414), (546, 547, 547), (548, 549, 549),
  (550, 551, 551), (552, 553, 553), (554, 555, 555), (556, 557, 557), (558, 559, 559), (560, 561, 561),
  (562, 563, 563), (570, 571, 11365), (571, 572, 572), (573, 574, 410), (574, 575, 11366), (577, 578, 578),
  (579, 580, 384), (580, 581, 649), (581, 582, 652), (582, 583, 583), (584, 585, 585), (586, 587, 587),
  (588, 589, 589), (590, 591, 591), (880, 881, 881), (882, 883, 883), (886, 887, 887), (895, 896, 1011),
  (902, 903, 940), (904, 907, 941), (908, 909, 972), (910, 912, 973), (913, 930, 945), (931, 940, 963),
  (975, 976, 983), (984, 985, 985), (986, 987, 987), (988, 989, 989), (990, 991, 991), (992, 993, 993),
  (994, 995, 995), (996, 997, 997), (998, 999, 999), (1000, 1001, 1001), (1002, 1003, 1003), (1004, 1005, 1005),
  (1006, 1007, 1007), (1012, 1013, 952), (1015, 1016, 1016), (1017, 1018, 1010), (1018, 1019, 1019), (1021, 1024, 891),
  (1024, 1040, 1104), (1040, 1072, 1072), (1120, 1121, 1121), (1122, 1123, 1123), (1124, 1125, 1125), (1126, 1127, 1127),
  (1128, 1129, 1129), (1130, 1131, 1131), (1132, 1133, 1133), (1134, 1135, 1135), (1136, 1137, 1137), (1138, 1139, 1139),
  (1140, 1141, 1141), (1142, 1143, 1143), (1144, 1145, 1145), (1146, 1147, 1147), (1148, 1149, 1149), (1150, 1151, 1151),
  (1152, 1153, 1153), (1162, 1163, 1163), (1164, 1165, 1165), (1166, 1167, 1167), (1168, 1169, 1169), (1170, 1171, 1171),
  (1172, 1173, 1173), (1174, 1175, 1175), (1176, 1177, 1177), (1178, 1179, 1179), (1180, 1181, 1181), (1182, 1183, 1183),
  (1184, 1185, 1185), (1186, 1187, 1187), (1188, 1189, 1189), (1190, 1191, 1191), (1192, 1193, 1193), (1194, 1195, 1195),
  (1196, 1197, 1197), (1198, 1199, 1199), (1200, 1201, 1201), (1202, 1203, 1203), (1204, 1205, 1205), (1206, 1207, 1207),
  (1208, 1209, 1209), (1210, 1211, 1211), (1212, 1213, 1213), (1214, 1215, 1215), (1216, 1217, 1231), (1217, 1218, 1218),
  (1219, 1220, 1220), (1221, 1222, 1222), (1223, 1224, 1224), (1225, 1226, 1226), (1227, 1228, 1228), (1229, 1230, 1230),
  (1232, 1233, 1233), (1234, 1235, 1235), (1236, 1237, 1237), (1238, 1239, 1239), (1240, 1241, 1241), (1242, 1243, 1243),
  (1244, 1245, 1245), (1246, 1247, 1247), (1248, 1249, 1249), (1250, 1251, 1251), (1252, 1253, 1253), (1254, 1255, 1255),
  (1256, 1257, 1257), (1258, 1259, 1259), (1260, 1261, 1261), (1262, 1263, 1263), (1264, 1265, 1265), (1266, 1267, 1267),
  (1268, 1269, 1269), (1270, 1271, 1271), (1272, 1273, 1273), (1274, 1275, 1275), (1276, 1277, 1277), (1278, 1279, 1279),
  (1280, 1281, 1281), (1282, 1283, 1283), (1284, 1285, 1285), (1286, 1287, 1287), (1288, 1289, 1289), (1290, 1291, 1291),
  (1292, 1293, 1293), (1294, 1295, 1295), (1296, 1297, 1297), (1298, 1299, 1299), (1300, 1301, 1301), (1302, 1303, 1303),
  (1304, 1305, 1305), (1306, 1307, 1307), (1308, 1309, 1309), (1310, 1311, 1311), (1312, 1313, 1313), (1314, 1315, 1315),
  (1316, 1317, 1317), (1318, 1319, 1319), (1320, 1321, 1321), (1322, 1323, 1323), (1324, 1325, 1325), (1326, 1327, 1327),
  (1329, 1367, 1377), (4256, 4294, 11520), (4295, 4296, 11559), (4301, 4302, 11565), (5024, 5104, 43888), (5104, 5110, 5112),
  (7305, 7306, 7306), (7312, 7355, 4304), (7357, 7360, 4349), (7680, 7681, 7681), (7682, 7683, 7683), (7684, 7685, 7685),
  (7686, 7687, 7687), (7688, 7689, 7689), (7690, 7691, 7691), (7692, 7693, 7693), (7694, 7695, 7695), (7696, 7697, 7697),
  (7698, 7699, 7699), (7700, 7701, 7701), (7702, 7703, 7703), (7704, 7705, 7705), (7706, 7707, 7707), (7708, 7709, 7709),
  (7710, 7711, 7711), (7712, 7713, 7713), (7714, 7715, 7715), (7716, 7717, 7717), (7718, 7719, 7719), (7720, 7721, 7721),
  (7722, 7723, 7723), (7724, 7725, 7725), (7726, 7727, 7727), (7728, 7729, 7729), (7730, 7731, 7731), (7732, 7733, 7733),
  (7734, 7735, 7735), (7736, 7737, 7737), (7738, 7739, 7739), (7740, 7741, 7741), (7742, 7743, 7743), (7744, 7745, 7745),
  (7746, 7747, 7747), (7748, 7749, 7749), (7750, 7751, 7751), (7752, 7753, 7753), (7754, 7755, 7755), (7756, 7757, 7757),
  (7758, 7759, 7759), (7760, 7761, 7761), (7762, 7763, 7763), (7764, 7765, 7765), (7766, 7767, 7767), (7768, 7769, 7769),
  (7770, 7771, 7771), (7772, 7773, 7773), (7774, 7775, 7775), (7776, 7777, 7777), (7778, 7779, 7779), (7780, 7781, 7781),
  (7782, 7783, 7783), (7784, 7785, 7785), (7786, 7787, 7787), (7788, 7789, 7789), (7790, 7791, 7791), (7792, 7793, 7793),
  (7794, 7795, 7795), (7796, 7797, 7797), (7798, 7799, 7799), (7800, 7801, 7801), (7802, 7803, 7803), (7804, 7805, 7805),
  (7806, 7807, 7807), (7808, 7809, 7809), (7810, 7811, 7811), (7812, 7813, 7813), (7814, 7815, 7815), (7816, 7817, 7817),
  (7818, 7819, 7819), (7820, 7821, 7821), (7822, 7823, 7823), (7824, 7825, 7825), (7826, 7827, 7827), (7828, 7829, 7829),
  (7838, 7839, 223), (7840, 7841, 7841), (7842, 7843, 7843), (7844, 7845, 7845), (7846, 7847, 7847), (7848, 7849, 7849),
  (7850, 7851, 7851), (7852, 7853, 7853), (7854, 7855, 7855), (7856, 7857, 7857), (7858, 7859, 7859), (7860, 7861, 7861),
  (7862, 7863, 7863), (7864, 7865, 7865), (7866, 7867, 7867), (7868, 7869, 7869), (7870, 7871, 7871), (7872, 7873, 7873),
  (7874, 7875, 7875), (7876, 7877, 7877), (7878, 7879, 7879), (7880, 7881, 7881), (7882, 7883, 7883), (7884, 7885, 7885),
  (7886, 7887, 7887), (7888, 7889, 7889), (7890, 7891, 7891), (7892, 7893, 7893), (7894, 7895, 7895), (7896, 7897, 7897),
  (7898, 7899, 7899), (7900, 7901, 7901), (7902, 7903, 7903), (7904, 7905, 7905), (7906, 7907, 7907), (7908, 7909, 7909),
  (7910, 7911, 7911), (7912, 7913, 7913), (7914, 7915, 7915), (7916, 7917, 7917), (7918, 7919, 7919), (7920, 7921, 7921),
  (7922, 7923, 7923), (7924, 7925, 7925), (7926, 7927, 7927), (7928, 7929, 7929), (7930, 7931, 7931), (7932, 7933, 7933),
  (7934, 7935, 7935), (7944, 7952, 7936), (7960, 7966, 7952), (7976, 7984, 7968), (7992, 8000, 7984), (8008, 8014, 8000),
  (8025, 8026, 8017), (8027, 8028, 8019), (8029, 8030, 8021), (8031, 8032, 8023), (8040, 8048, 8032), (8072, 8080, 8064),
  (8088, 8096, 8080), (8104, 8112, 8096), (8120, 8122, 8112), (8122, 8124, 8048), (8124, 8125, 8115), (8136, 8140, 8050),
  (8140, 8141, 8131), (8152, 8154, 8144), (8154, 8156, 8054), (8168, 8170, 8160), (8170, 8172, 8058), (8172, 8173, 8165),
  (8184, 8186, 8056), (8186, 8188, 8060), (8188, 8189, 8179), (8486, 8487, 969), (8490, 8491, 107), (8491, 8492, 229),
  (8498, 8499, 8526), (8544, 8560, 8560), (8579, 8580, 8580), (9398, 9424, 9424), (11264, 11312, 11312), (11360, 11361, 11361),
  (11362, 11363, 619), (11363, 11364, 7549), (11364, 11365, 637), (11367, 11368, 11368), (11369, 11370, 11370), (11371, 11372, 11372),
  (11373, 11374, 593), (11374, 11375, 625), (11375, 11376, 592), (11376, 11377, 594), (11378, 11379, 11379), (11381, 11382, 11382),
  (11390, 11392, 575), (11392, 11393, 11393), (11394, 11395, 11395), (11396, 11397, 11397), (11398, 11399, 11399), (11400, 11401, 11401),
  (11402, 11403, 11403), (11404, 11405, 11405), (11406, 11407, 11407), (11408, 11409, 11409), (11410, 11411, 11411), (11412, 11413, 11413),
  (11414, 11415, 11415), (11416, 11417, 11417), (11418, 11419, 11419), (11420, 11421, 11421), (11422, 11423, 11423), (11424, 11425, 11425),
  (11426, 11427, 11427), (11428, 11429, 11429), (11430, 11431, 11431), (11432, 11433, 11433), (11434, 11435, 11435), (11436, 11437, 11437),
  (11438, 11439, 11439), (11440, 11441, 11441), (11442, 11443, 11443), (11444, 11445, 11445), (11446, 11447, 11447), (11448, 11449, 11449),
  (11450, 11451, 11451), (11452, 11453, 11453), (11454, 11455, 11455), (11456, 11457, 11457), (11458, 11459, 11459), (11460, 11461, 11461),
  (11462, 11463, 11463), (11464, 11465, 11465), (11466, 11467, 11467), (11468, 11469, 11469), (11470, 11471, 11471), (11472, 11473, 11473),
  (11474, 11475, 11475), (11476, 11477, 11477), (11478, 11479, 11479), (11480, 11481, 11481), (11482, 11483, 11483), (11484, 11485, 11485),
  (11486, 11487, 11487), (11488, 11489, 11489), (11490, 11491, 11491), (11499, 11500, 11500), (11501, 11502, 11502), (11506, 11507, 11507),
  (42560, 42561, 42561), (42562, 42563, 42563), (42564, 42565, 42565), (42566, 42567, 42567), (42568, 42569, 42569), (42570, 42571, 42571),
  (42572, 42573, 42573), (42574, 42575, 42575), (42576, 42577, 42577), (42578, 42579, 42579), (42580, 42581, 42581), (42582, 42583, 42583),
  (42584, 42585, 42585), (42586, 42587, 42587), (42588, 42589, 42589), (42590, 42591, 42591), (42592, 42593, 42593), (42594, 42595, 42595),
  (42596, 42597, 42597), (42598, 42599, 42599), (42600, 42601, 42601), (42602, 42603, 42603), (42604, 42605, 42605), (42624, 42625, 42625),
  (42626, 42627, 42627), (42628, 42629, 42629), (42630, 42631, 42631), (42632, 42633, 42633), (42634, 42635, 42635), (42636, 42637, 42637),
  (42638, 42639, 42639), (42640, 42641, 42641), (42642, 42643, 42643), (42644, 42645, 42645), (42646, 42647, 42647), (42648, 42649, 42649),
  (42650, 42651, 42651), (42786, 42787, 42787), (42788, 42789, 42789), (42790, 42791, 42791), (42792, 42793, 42793), (42794, 42795, 42795),
  (42796, 42797, 42797), (42798, 42799, 42799), (42802, 42803, 42803), (42804, 42805, 42805), (42806, 42807, 42807), (42808, 42809, 42809),
  (42810, 42811, 42811), (42812, 42813, 42813), (42814, 42815, 42815), (42816, 42817, 42817), (42818, 42819, 42819), (42820, 42821, 42821),
  (42822, 42823, 42823), (42824, 42825, 42825), (42826, 42827, 42827), (42828, 42829, 42829), (42830, 42831, 42831), (42832, 42833, 42833),
  (42834, 42835, 42835), (42836, 42837, 42837), (42838, 42839, 42839), (42840, 42841, 42841), (42842, 42843, 42843), (42844, 42845, 42845),
  (42846, 42847, 42847), (42848, 42849, 42849), (42850, 42851, 42851), (42852, 42853, 42853), (42854, 42855, 42855), (42856, 42857, 42857),
  (42858, 42859, 42859), (42860, 42861, 42861), (42862, 42863, 42863), (42873, 42874, 42874), (42875, 42876, 42876), (42877, 42878, 7545),
  (42878, 42879, 42879), (42880, 42881, 42881), (42882, 42883, 42883), (42884, 42885, 42885), (42886, 42887, 42887), (42891, 42892, 42892),
  (42893, 42894, 613), (42896, 42897, 42897), (42898, 42899, 42899), (42902, 42903, 42903), (42904, 42905, 42905), (42906, 42907, 42907),
  (42908, 42909, 42909), (42910, 42911, 42911), (42912, 42913, 42913), (42914, 42915, 42915), (42916, 42917, 42917), (42918, 42919, 42919),
  (42920, 42921, 42921), (42922, 42923, 614), (42923, 42924, 604), (42924, 42925, 609), (42925, 42926, 620), (42926, 42927, 618),
  (42928, 42929, 670), (42929, 42930, 647), (42930, 42931, 669), (42931, 42932, 43859), (42932, 42933, 42933), (42934, 42935, 42935),
  (42936, 42937, 42937), (42938, 42939, 42939), (42940, 42941, 42941), (42942, 42943, 42943), (42944, 42945, 42945), (42946, 42947, 42947),
  (42948, 42949, 42900), (42949, 42950, 642), (42950, 42951, 7566), (42951, 42952, 42952), (42953, 42954, 42954), (42955, 42956, 612),
  (42956, 42957, 42957), (42958, 42959, 42959), (42960, 42961, 42961), (42962, 42963, 42963), (42964, 42965, 42965), (42966, 42967, 42967),
  (42968, 42969, 42969), (42970, 42971, 42971), (42972, 42973, 411), (42997, 42998, 42998), (65313, 65339, 65345), (66560, 66600, 66600),
  (66736, 66772, 66776), (66928, 66939, 66967), (66940, 66955, 66979), (66956, 66963, 66995), (66964, 66966, 67003), (68736, 68787, 68800),
  (68944, 68966, 68976), (71840, 71872, 71872), (93760, 93792, 93792), (93856, 93881, 93883), (125184, 125218, 125218)]

/-- Code points whose full lowercase mapping has several characters. -/
def toLowerExpansions : Array (Nat × List Nat) := #[
  (304, [105, 775])]

/-- Shifted ranges of the single-character uppercase mapping. -/
def toUpperShifts : Array (Nat × Nat × Nat) := #[
  (97, 123, 65), (181, 182, 924), (224, 247, 192), (248, 255, 216), (255, 256, 376), (257, 258, 256),
  (259, 260, 258), (261, 262, 260), (263, 264, 262), (265, 266, 264), (267, 268, 266), (269, 270, 268),
  (271, 272, 270), (273, 274, 272), (275, 276, 274), (277, 278, 276), (279, 280, 278), (281, 282, 280),
  (283, 284, 282), (285, 286, 284), (287, 288, 286), (289, 290, 288), (291, 292, 290), (293, 294, 292),
  (295, 296, 294), (297, 298, 296), (299, 300, 298), (301, 302, 300), (303, 304, 302), (305, 306, 73),
  (307, 308, 306), (309, 310, 308), (311, 312, 310), (314, 315, 313), (316, 317, 315), (318, 319, 317),
  (320, 321, 319), (322, 323, 321), (324, 325, 323), (326, 327, 325), (328, 329, 327), (331, 332, 330),
  (333, 334, 332), (335, 336, 334), (337, 338, 336), (339, 340, 338), (341, 342, 340), (343, 344, 342),
  (345, 346, 344), (347, 348, 346), (349, 350, 348), (351, 352, 350), (353, 354, 352), (355, 356, 354),
  (357, 358, 356), (359, 360, 358), (361, 362, 360), (363, 364, 362), (365, 366, 364), (367, 368, 366),
  (369, 370, 368), (371, 372, 370), (373, 374, 372), (375, 376, 374), (378, 379, 377), (380, 381, 379),
  (382, 383, 381), (383, 384, 83), (384, 385, 579), (387, 388, 386), (389, 390, 388), (392, 393, 391),
  (396, 397, 395), (402, 403, 401), (405, 406, 502), (409, 410, 408), (410, 411, 573), (411, 412, 42972),
  (414, 415, 544), (417, 418, 416), (419, 420, 418), (421, 422, 420), (424, 425, 423), (429, 430, 428),
  (432, 433, 431), (436, 437, 435), (438, 439, 437), (441, 442, 440), (445, 446, 444), (447, 448, 503),
  (453, 454, 452), (454, 455, 452), (456, 457, 455), (457, 458, 455), (459, 460, 458), (460, 461, 458),
  (462, 463, 461), (464, 465, 463), (466, 467, 465), (468, 469, 467), (470, 471, 469), (472, 473, 471),
  (474, 475, 473), (476, 477, 475), (477, 478, 398), (479, 480, 478), (481, 482, 480), (483, 484, 482),
  (485, 486, 484), (487, 488, 486), (489, 490, 488), (491, 492, 490), (493, 494, 492), (495, 496, 494),
  (498, 499, 497), (499, 500, 497), (501, 502, 500), (505, 506, 504), (507, 508, 506), (509, 510, 508),
  (511, 512, 510), (513, 514, 512), (515, 516, 514), (517, 518, 516), (519, 520, 518), (521, 522, 520),
  (523, 524, 522), (525, 526, 524), (527, 528, 526), (529, 530, 528), (531, 532, 530), (533, 534, 532),
  (535, 536, 534), (537, 538, 536), (539, 540, 538), (541, 542, 540), (543, 544, 542), (547, 548, 546),
  (549, 550, 548), (551, 552, 550), (553, 554, 552), (555, 556, 554), (557, 558, 556), (559, 560, 558),
  (561, 562, 560), (563, 564, 562), (572, 573, 571), (575, 577, 11390), (578, 579, 577), (583, 584, 582),
  (585, 586, 584), (587, 588, 586), (589, 590, 588), (591, 592, 590), (592, 593, 11375), (593, 594, 11373),
  (594, 595, 11376), (595, 596, 385), (596, 597, 390), (598, 600, 393), (601, 602, 399), (603, 604, 400),
  (604, 605, 42923), (608, 609, 403), (609, 610, 42924), (611, 612, 404), (612, 613, 42955), (613, 614, 42893),
  (614, 615, 42922), (616, 617, 407), (617, 618, 406), (618, 619, 42926), (619, 620, 11362), (620, 621, 42925),
  (623, 624, 412), (625, 626, 11374), (626, 627, 413), (629, 630, 415), (637, 638, 11364), (640, 641, 422),
  (642, 643, 42949), (643, 644, 425), (647, 648, 42929), (648, 649, 430), (649, 650, 580), (650, 652, 433),
  (652, 653, 581), (658, 659, 439), (669, 670, 42930), (670, 671, 42928), (837, 838, 921), (881, 882, 880),
  (883, 884, 882), (887, 888, 886), (891, 894, 1021), (940, 941, 902), (941, 944, 904), (945, 962, 913),
  (962, 963, 931), (963, 972, 931), (972, 973, 908), (973, 975, 910), (976, 977, 914), (977, 978, 920),
  (981, 982, 934), (982, 983, 928), (983, 984, 975), (985, 986, 984), (987, 988, 986), (989, 990, 988),
  (991, 992, 990), (993, 994, 992), (995, 996, 994), (997, 998, 996), (999, 1000, 998), (1001, 1002, 1000),
  (1003, 1004, 1002), (1005, 1006, 1004), (1007, 1008, 1006), (1008, 1009, 922), (1009, 1010, 929), (1010, 1011, 1017),
  (1011, 1012, 895), (1013, 1014, 917), (1016, 1017, 1015), (1019, 1020, 1018), (1072, 1104, 1040), (1104, 1120, 1024),
  (1121, 1122, 1120), (1123, 1124, 1122), (1125, 1126, 1124), (1127, 1128, 1126), (1129, 1130, 1128), (1131, 1132, 1130),
  (1133, 1134, 1132), (1135, 1136, 1134), (1137, 1138, 1136), (1139, 1140, 1138), (1141, 1142, 1140), (1143, 1144, 1142),
  (1145, 1146, 1144), (1147, 1148, 1146), (1149, 1150, 1148), (1151, 1152, 1150), (1153, 1154, 1152), (1163, 1164, 1162),
  (1165, 1166, 1164), (1167, 1168, 1166), (1169, 1170, 1168), (1171, 1172, 1170), (1173, 1174, 1172), (1175, 1176, 1174),
  (1177, 1178, 1176), (1179, 1180, 1178), (1181, 1182, 1180), (1183, 1184, 1182), (1185, 1186, 1184), (1187, 1188, 1186),
  (1189, 1190, 1188), (1191, 1192, 1190), (1193, 1194, 1192), (1195, 1196, 1194), (1197, 1198, 1196), (1199, 1200, 1198),
  (1201, 1202, 1200), (1203, 1204, 1202), (1205, 1206, 1204), (1207, 1208, 1206), (1209, 1210, 1208), (1211, 1212, 1210),
  (1213, 1214, 1212), (1215, 1216, 1214), (1218, 1219, 1217), (1220, 1221, 1219), (1222, 1223, 1221), (1224, 1225, 1223),
  (1226, 1227, 1225), (1228, 1229, 1227), (1230, 1231, 1229), (1231, 1232, 1216), (1233, 1234, 1232), (1235, 1236, 1234),
  (1237, 1238, 1236), (1239, 1240, 1238), (1241, 1242, 1240), (1243, 1244, 1242), (1245, 1246, 1244), (1247, 1248, 1246),
  (1249, 1250, 1248), (1251, 1252, 1250), (1253, 1254, 1252), (1255, 1256, 1254), (1257, 1258, 1256), (1259, 1260, 1258),
  (1261, 1262, 1260), (1263, 1264, 1262), (1265, 1266, 1264), (1267, 1268, 1266), (1269, 1270, 1268), (1271, 1272, 1270),
  (1273, 1274, 1272), (1275, 1276, 1274), (1277, 1278, 1276), (1279, 1280, 1278), (1281, 1282, 1280), (1283, 1284, 1282),
  (1285, 1286, 1284), (1287, 1288, 1286), (1289, 1290, 1288), (1291, 1292, 1290), (1293, 1294, 1292), (1295, 1296, 1294),
  (1297, 1298, 1296), (1299, 1300, 1298), (1301, 1302, 1300), (1303, 1304, 1302), (1305, 1306, 1304), (1307, 1308, 1306),
  (1309, 1310, 1308), (1311, 1312, 1310), (1313, 1314, 1312), (1315, 1316, 1314), (1317, 1318, 1316), (1319, 1320, 1318),
  (1321, 1322, 1320), (1323, 1324, 1322), (1325, 1326, 1324), (1327, 1328, 1326), (1377, 1415, 1329), (4304, 4347, 7312),
  (4349, 4352, 7357), (5112, 5118, 5104), (7296, 7297, 1042), (7297, 7298, 1044), (7298, 7299, 1054), (7299, 7301, 1057),
  (7301, 7302, 1058), (7302, 7303, 1066), (7303, 7304, 1122), (7304, 7305, 42570), (7306, 7307, 7305), (7545, 7546, 42877),
  (7549, 7550, 11363), (7566, 7567, 42950), (7681, 7682, 7680), (7683, 7684, 7682), (7685, 7686, 7684), (7687, 7688, 7686),
  (7689, 7690, 7688), (7691, 7692, 7690), (7693, 7694, 7692), (7695, 7696, 7694), (7697, 7698, 7696), (7699, 7700, 7698),
  (7701, 7702, 7700), (7703, 7704, 7702), (7705, 7706, 7704), (7707, 7708, 7706), (7709, 7710, 7708), (7711, 7712, 7710),
  (7713, 7714, 7712), (7715, 7716, 7714), (7717, 7718, 7716), (7719, 7720, 7718), (7721, 7722, 7720), (7723, 7724, 7722),
  (7725, 7726, 7724), (7727, 7728, 7726), (7729, 7730, 7728), (7731, 7732, 7730), (7733, 7734, 7732), (7735, 7736, 7734),
  (7737, 7738, 7736), (7739, 7740, 7738), (7741, 7742, 7740), (7743, 7744, 7742), (7745, 7746, 7744), (7747, 7748, 7746),
  (7749, 7750, 7748), (7751, 7752, 7750), (7753, 7754, 7752), (7755, 7756, 7754), (7757, 7758, 7756), (7759, 7760, 7758),
  (7761, 7762, 7760), (7763, 7764, 7762), (7765, 7766, 7764), (7767, 7768, 7766), (7769, 7770, 7768), (7771, 7772, 7770),
  (7773, 7774, 7772), (7775, 7776, 7774), (7777, 7778, 7776), (7779, 7780, 7778), (7781, 7782, 7780), (7783, 7784, 7782),
  (7785, 7786, 7784), (7787, 7788, 7786), (7789, 7790, 7788), (7791, 7792, 7790), (7793, 7794, 7792), (7795, 7796, 7794),
  (7797, 7798, 7796), (7799, 7800, 7798), (7801, 7802, 7800), (7803, 7804, 7802), (7805, 7806, 7804), (7807, 7808, 7806),
  (7809, 7810, 7808), (7811, 7812, 7810), (7813, 7814, 7812), (7815, 7816, 7814), (7817, 7818, 7816), (7819, 7820, 7818),
  (7821, 7822, 7820), (7823, 7824, 7822), (7825, 7826, 7824), (7827, 7828, 7826), (7829, 7830, 7828), (7835, 7836, 7776),
  (7841, 7842, 7840), (7843, 7844, 7842), (7845, 7846, 7844), (7847, 7848, 7846), (7849, 7850, 7848), (7851, 7852, 7850),
  (7853, 7854, 7852), (7855, 7856, 7854), (7857, 7858, 7856), (7859, 7860, 7858), (7861, 7862, 7860), (7863, 7864, 7862),
  (7865, 7866, 7864), (7867, 7868, 7866), (7869, 7870, 7868), (7871, 7872, 7870), (7873, 7874, 7872), (7875, 7876, 7874),
  (7877, 7878, 7876), (7879, 7880, 7878), (7881, 7882, 7880), (7883, 7884, 7882), (7885, 7886, 7884), (7887, 7888, 7886),
  (7889, 7890, 7888), (7891, 7892, 7890), (7893, 7894, 7892), (7895, 7896, 7894), (7897, 7898, 7896), (7899, 7900, 7898),
  (7901, 7902, 7900), (7903, 7904, 7902), (7905, 7906, 7904), (7907, 7908, 7906), (7909, 7910, 7908), (7911, 7912, 7910),
  (7913, 7914, 7912), (7915, 7916, 7914), (7917, 7918, 7916), (7919, 7920, 7918), (7921, 7922, 7920), (7923, 7924, 7922),
  (7925, 7926, 7924), (7927, 7928, 7926), (7929, 7930, 7928), (7931, 7932, 7930), (7933, 7934, 7932), (7935, 7936, 7934),
  (7936, 7944, 7944), (7952, 7958, 7960), (7968, 7976, 7976), (7984, 7992, 7992), (8000, 8006, 8008), (8017, 8018, 8025),
  (8019, 8020, 8027), (8021, 8022, 8029), (8023, 8024, 8031), (8032, 8040, 8040), (8048, 8050, 8122), (8050, 8054, 8136),
  (8054, 8056, 8154), (8056, 8058, 8184), (8058, 8060, 8170), (8060, 8062, 8186), (8112, 8114, 8120), (8126, 8127, 921),
  (8144, 8146, 8152), (8160, 8162, 8168), (8165, 8166, 8172), (8526, 8527, 8498), (8560, 8576, 8544), (8580, 8581, 8579),
  (9424, 9450, 9398), (11312, 11360, 11264), (11361, 11362, 11360), (11365, 11366, 570), (11366, 11367, 574), (11368, 11369, 11367),
  (11370, 11371, 11369), (11372, 11373, 11371), (11379, 11380, 11378), (11382, 11383, 11381), (11393, 11394, 11392), (11395, 11396, 11394),
  (11397, 11398, 11396), (11399, 11400, 11398), (11401, 11402, 11400), (11403, 11404, 11402), (11405, 11406, 11404), (11407, 11408, 11406),
  (11409, 11410, 11408), (11411, 11412, 11410), (11413, 11414, 11412), (11415, 11416, 11414), (11417, 11418, 11416), (11419, 11420, 11418),
  (11421, 11422, 11420), (11423, 11424, 11422), (11425, 11426, 11424), (11427, 11428, 11426), (11429, 11430, 11428), (11431, 11432, 11430),
  (11433, 11434, 11432), (11435, 11436, 11434), (11437, 11438, 11436), (11439, 11440, 11438), (11441, 11442, 11440), (11443, 11444, 11442),
  (11445, 11446, 11444), (11447, 11448, 11446), (11449, 11450, 11448), (11451, 11452, 11450), (11453, 11454, 11452), (11455, 11456, 11454),
  (11457, 11458, 11456), (11459, 11460, 11458), (11461, 11462, 11460), (11463, 11464, 11462), (11465, 11466, 11464), (11467, 11468, 11466),
  (11469, 11470, 11468), (11471, 11472, 11470), (11473, 11474, 11472), (11475, 11476, 11474), (11477, 11478, 11476), (11479, 11480, 11478),
  (11481, 11482, 11480), (11483, 11484, 11482), (11485, 11486, 11484), (11487, 11488, 11486), (11489, 11490, 11488), (11491, 11492, 11490),
  (11500, 11501, 11499), (11502, 11503, 11501), (11507, 11508, 11506), (11520, 11558, 4256), (11559, 11560, 4295), (11565, 11566, 4301),
  (42561, 42562, 42560), (42563, 42564, 42562), (42565, 42566, 42564), (42567, 42568, 42566), (42569, 42570, 42568), (42571, 42572, 42570),
  (42573, 42574, 42572), (42575, 42576, 42574), (42577, 42578, 42576), (42579, 42580, 42578), (42581, 42582, 42580), (42583, 42584, 42582),
  (42585, 42586, 42584), (42587, 42588, 42586), (42589, 42590, 42588), (42591, 42592, 42590), (42593, 42594, 42592), (42595, 42596, 42594),
  (42597, 42598, 42596), (42599, 42600, 42598), (42601, 42602, 42600), (42603, 42604, 42602), (42605, 42606, 42604), (42625, 42626, 42624),
  (42627, 42628, 42626), (42629, 42630, 42628), (42631, 42632, 42630), (42633, 42634, 42632), (42635, 42636, 42634), (42637, 42638, 42636),
  (42639, 42640, 42638), (42641, 42642, 42640), (42643, 42644, 42642), (42645, 42646, 42644), (42647, 42648, 42646), (42649, 42650, 42648),
  (42651, 42652, 42650), (42787, 42788, 42786), (42789, 42790, 42788), (42791, 42792, 42790), (42793, 42794, 42792), (42795, 42796, 42794),
  (42797, 42798, 42796), (42799, 42800, 42798), (42803, 42804, 42802), (42805, 42806, 42804), (42807, 42808, 42806), (42809, 42810, 42808),
  (42811, 42812, 42810), (42813, 42814, 42812), (42815, 42816, 42814), (42817, 42818, 42816), (42819, 42820, 42818), (42821, 42822, 42820),
  (42823, 42824, 42822), (42825, 42826, 42824), (42827, 42828, 42826), (42829, 42830, 42828), (42831, 42832, 42830), (42833, 42834, 42832),
  (42835, 42836, 42834), (42837, 42838, 42836), (42839, 42840, 42838), (42841, 42842, 42840), (42843, 42844, 42842), (42845, 42846, 42844),
  (42847, 42848, 42846), (42849, 42850, 42848), (42851, 42852, 42850), (42853, 42854, 42852), (42855, 42856, 42854), (42857, 42858, 42856),
  (42859, 42860, 42858), (42861, 42862, 42860), (42863, 42864, 42862), (42874, 42875, 42873), (42876, 42877, 42875), (42879, 42880, 42878),
  (42881, 42882, 42880), (42883, 42884, 42882), (42885, 42886, 42884), (42887, 42888, 42886), (42892, 42893, 42891), (42897, 42898, 42896),
  (42899, 42900, 42898), (42900, 42901, 42948), (42903, 42904, 42902), (42905, 42906, 42904), (42907, 42908, 42906), (42909, 42910, 42908),
  (42911, 42912, 42910), (42913, 42914, 42912), (42915, 42916, 42914), (42917, 42918, 42916), (42919, 42920, 42918), (42921, 42922, 42920),
  (42933, 42934, 42932), (42935, 42936, 42934), (42937, 42938, 42936), (42939, 42940, 42938), (42941, 42942, 42940), (42943, 42944, 42942),
  (42945, 42946, 42944), (42947, 42948, 42946), (42952, 42953, 42951), (42954, 42955, 42953), (42957, 42958, 42956), (42959, 42960, 42958),
  (42961, 42962, 42960), (42963, 42964, 42962), (42965, 42966, 42964), (42967, 42968, 42966), (42969, 42970, 42968), (42971, 42972, 42970),
  (42998, 42999, 42997), (43859, 43860, 42931), (43888, 43968, 5024), (65345, 65371, 65313), (66600, 66640, 66560), (66776, 66812, 66736),
  (66967, 66978, 66928), (66979, 66994, 66940), (66995, 67002, 66956), (67003, 67005, 66964), (68800, 68851, 68736), (68976, 68998, 68944),
  (71872, 71904, 71840), (93792, 93824, 93760), (93883, 93908, 93856), (125218, 125252, 125184)]

/-- Code points whose full uppercase mapping has several characters. -/
def toUpperExpansions : Array (Nat × List Nat) := #[
  (223, [83, 83]), (329, [700, 78]), (496, [74, 780]), (912, [921, 776, 769]),
  (944, [933, 776, 769]), (1415, [1333, 1362]), (7830, [72, 817]), (7831, [84, 776]),
  (7832, [87, 778]), (7833, [89, 778]), (7834, [65, 702]), (8016, [933, 787]),
  (8018, [933, 787, 768]), (8020, [933, 787, 769]), (8022, [933, 787, 834]), (8064, [7944, 921]),
  (8065, [7945, 921]), (8066, [7946, 921]), (8067, [7947, 921]), (8068, [7948, 921]),
  (8069, [7949, 921]), (8070, [7950, 921]), (8071, [7951, 921]), (8072, [7944, 921]),
  (8073, [7945, 921]), (8074, [7946, 921]), (8075, [7947, 921]), (8076, [7948, 921]),
  (8077, [7949, 921]), (8078, [7950, 921]), (8079, [7951, 921]), (8080, [7976, 921]),
  (8081, [7977, 921]), (8082, [7978, 921]), (8083, [7979, 921]), (8084, [7980, 921]),
  (8085, [7981, 921]), (8086, [7982, 921]), (8087, [7983, 921]), (8088, [7976, 921]),
  (8089, [7977, 921]), (8090, [7978, 921]), (8091, [7979, 921]), (8092, [7980, 921]),
  (8093, [7981, 921]), (8094, [7982, 921]), (8095, [7983, 921]), (8096, [8040, 921]),
  (8097, [8041, 921]), (8098, [8042, 921]), (8099, [8043, 921]), (8100, [8044, 921]),
  (8101, [8045, 921]), (8102, [8046, 921]), (8103, [8047, 921]), (8104, [8040, 921]),
  (8105, [8041, 921]), (8106, [8042, 921]), (8107, [8043, 921]), (8108, [8044, 921]),
  (8109, [8045, 921]), (8110, [8046, 921]), (8111, [8047, 921]), (8114, [8122, 921]),
  (8115, [913, 921]), (8116, [902, 921]), (8118, [913, 834]), (8119, [913, 834, 921]),
  (8124, [913, 921]), (8130, [8138, 921]), (8131, [919, 921]), (8132, [905, 921]),
  (8134, [919, 834]), (8135, [919, 834, 921]), (8140, [919, 921]), (8146, [921, 776, 768]),
  (8147, [921, 776, 769]), (8150, [921, 834]), (8151, [921, 776, 834]), (8162, [933, 776, 768]),
  (8163, [933, 776, 769]), (8164, [929, 787]), (8166, [933, 834]), (8167, [933, 776, 834]),
  (8178, [8186, 921]), (8179, [937, 921]), (8180, [911, 921]), (8182, [937, 834]),
  (8183, [937, 834, 921]), (8188, [937, 921]), (64256, [70, 70]), (64257, [70, 73]),
  (64258, [70, 76]), (64259, [70, 70, 73]), (64260, [70, 70, 76]), (64261, [83, 84]),
  (64262, [83, 84]), (64275, [1348, 1350]), (64276, [1348, 1333]), (64277, [1348, 1339]),
  (64278, [1358, 1350]), (64279, [1348, 1341])]

end Metamodel.Text.CaseTable
