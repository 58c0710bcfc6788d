/-!
# Compositions

Many characters of identifiers stand for others: a letter with an accent for the letter and the
accent, a wide letter for the plain one, a ligature for its letters. The tables of this module are
those of Unicode 14, for the characters that identifiers may hold.

## Main definitions

* `Text.combiningClass`: how the marks behind a letter are ordered
* `Text.standsFor?`: the characters that a character stands for
* `Text.composed?`: the character that stands for a letter and a mark
-/

namespace ServiceStubs

namespace Text

/-! ## Tables -/

/-- The runs of the marks: how many characters lie between it and the one before, its length, and
the class of its marks. -/
def classRuns : List Nat :=
  [768, 21, 230, 0, 1, 232, 0, 4, 220, 0, 1, 232, 0, 1, 216, 0, 5, 220, 0, 2, 202, 0, 4, 220, 0, 2,
   202, 0, 11, 220, 0, 5, 1, 0, 4, 220, 0, 8, 230, 0, 1, 240, 0, 1, 230, 0, 3, 220, 0, 3, 230, 0, 2,
   220, 1, 3, 230, 0, 4, 220, 0, 1, 230, 0, 1, 232, 0, 2, 220, 0, 1, 230, 0, 1, 233, 0, 2, 234, 0,
   1, 233, 0, 2, 234, 0, 1, 233, 0, 13, 230, 275, 5, 230, 265, 1, 220, 0, 4, 230, 0, 1, 220, 0, 3,
   230, 0, 1, 222, 0, 1, 220, 0, 6, 230, 0, 6, 220, 0, 2, 230, 0, 1, 220, 0, 2, 230, 0, 1, 222, 0,
   1, 228, 0, 1, 230, 0, 1, 10, 0, 1, 11, 0, 1, 12, 0, 1, 13, 0, 1, 14, 0, 1, 15, 0, 1, 16, 0, 1,
   17, 0, 1, 18, 0, 2, 19, 0, 1, 20, 0, 1, 21, 0, 1, 22, 1, 1, 23, 1, 1, 24, 0, 1, 25, 1, 1, 230, 0,
   1, 220, 1, 1, 18, 72, 8, 230, 0, 1, 30, 0, 1, 31, 0, 1, 32, 48, 1, 27, 0, 1, 28, 0, 1, 29, 0, 1,
   30, 0, 1, 31, 0, 1, 32, 0, 1, 33, 0, 1, 34, 0, 2, 230, 0, 2, 220, 0, 5, 230, 0, 1, 220, 0, 2,
   230, 0, 1, 220, 16, 1, 35, 101, 7, 230, 2, 4, 230, 0, 1, 220, 0, 1, 230, 2, 2, 230, 1, 1, 220, 0,
   2, 230, 0, 1, 220, 35, 1, 36, 30, 1, 230, 0, 1, 220, 0, 2, 230, 0, 1, 220, 0, 2, 230, 0, 3, 220,
   0, 1, 230, 0, 2, 220, 0, 1, 230, 0, 1, 220, 0, 3, 230, 0, 1, 220, 0, 1, 230, 0, 1, 220, 0, 1,
   230, 0, 1, 220, 0, 1, 230, 0, 1, 220, 0, 2, 230, 160, 7, 230, 0, 1, 220, 0, 1, 230, 9, 1, 220,
   24, 4, 230, 1, 9, 230, 1, 3, 230, 1, 5, 230, 43, 3, 220, 60, 1, 230, 0, 3, 220, 0, 4, 230, 42, 5,
   230, 0, 5, 220, 0, 14, 230, 1, 1, 220, 0, 2, 230, 0, 1, 220, 0, 2, 230, 0, 1, 220, 0, 3, 230, 0,
   3, 220, 0, 1, 27, 0, 1, 28, 0, 1, 29, 0, 3, 230, 0, 1, 220, 0, 2, 230, 0, 2, 220, 0, 5, 230, 60,
   1, 7, 16, 1, 9, 3, 1, 230, 0, 1, 220, 0, 2, 230, 103, 1, 7, 16, 1, 9, 48, 1, 230, 61, 1, 7, 16,
   1, 9, 110, 1, 7, 16, 1, 9, 110, 1, 7, 16, 1, 9, 127, 1, 9, 110, 1, 7, 16, 1, 9, 7, 1, 84, 0, 1,
   91, 101, 1, 7, 16, 1, 9, 109, 2, 9, 16, 1, 9, 124, 1, 9, 109, 2, 103, 0, 1, 9, 13, 4, 107, 108,
   2, 118, 0, 1, 9, 13, 4, 122, 76, 2, 220, 27, 1, 220, 1, 1, 220, 1, 1, 216, 55, 1, 129, 0, 1, 130,
   1, 1, 132, 5, 4, 130, 2, 1, 130, 1, 2, 230, 0, 1, 9, 1, 2, 230, 62, 1, 220, 112, 1, 7, 1, 2, 9,
   82, 1, 220, 719, 3, 230, 948, 2, 9, 30, 1, 9, 157, 1, 9, 10, 1, 230, 203, 1, 228, 143, 1, 222, 0,
   1, 230, 0, 1, 220, 219, 1, 230, 0, 1, 220, 71, 1, 9, 20, 8, 230, 2, 1, 220, 48, 5, 230, 0, 6,
   220, 0, 2, 230, 0, 1, 220, 1, 2, 220, 0, 2, 230, 0, 2, 220, 0, 5, 230, 0, 1, 220, 0, 4, 230, 101,
   1, 7, 15, 1, 9, 38, 1, 230, 0, 1, 220, 0, 7, 230, 54, 2, 9, 58, 1, 7, 11, 2, 9, 67, 1, 7, 152, 3,
   230, 1, 1, 1, 0, 5, 220, 0, 2, 230, 0, 4, 220, 0, 1, 230, 1, 7, 1, 4, 1, 220, 6, 1, 230, 3, 2,
   230, 198, 2, 230, 0, 1, 220, 0, 7, 230, 0, 1, 220, 0, 2, 230, 0, 1, 234, 0, 1, 214, 0, 1, 220, 0,
   1, 202, 0, 37, 230, 0, 1, 232, 0, 2, 228, 0, 1, 220, 0, 1, 218, 0, 1, 230, 0, 1, 233, 0, 1, 220,
   0, 1, 230, 0, 1, 220, 720, 2, 230, 0, 2, 1, 0, 4, 230, 0, 3, 1, 0, 2, 230, 4, 1, 230, 3, 2, 1, 0,
   1, 230, 0, 1, 220, 0, 1, 230, 0, 2, 1, 0, 4, 220, 0, 1, 230, 3070, 3, 230, 141, 1, 9, 96, 32,
   230, 554, 1, 218, 0, 1, 228, 0, 1, 232, 0, 1, 222, 0, 2, 224, 105, 2, 8, 30164, 1, 230, 4, 10,
   230, 32, 2, 230, 80, 2, 230, 276, 1, 9, 37, 1, 9, 151, 1, 9, 27, 18, 230, 57, 3, 220, 37, 1, 9,
   95, 1, 7, 12, 1, 9, 239, 1, 230, 1, 2, 230, 0, 1, 220, 2, 2, 230, 5, 2, 230, 1, 1, 230, 52, 1, 9,
   246, 1, 9, 20272, 1, 26, 769, 7, 230, 0, 7, 220, 0, 2, 230, 973, 1, 220, 226, 1, 220, 149, 5,
   230, 1682, 1, 220, 1, 1, 230, 40, 1, 230, 0, 1, 1, 0, 1, 220, 4, 1, 9, 165, 1, 230, 0, 1, 220,
   573, 4, 230, 387, 2, 230, 153, 2, 220, 0, 3, 230, 0, 1, 220, 0, 1, 230, 0, 4, 220, 49, 1, 230, 0,
   1, 220, 0, 1, 230, 0, 1, 220, 192, 1, 9, 41, 1, 9, 14, 1, 9, 57, 1, 9, 0, 1, 7, 69, 3, 230, 48,
   2, 9, 62, 1, 7, 76, 1, 9, 9, 1, 7, 106, 1, 9, 0, 1, 7, 178, 1, 7, 0, 1, 9, 80, 2, 7, 16, 1, 9,
   24, 7, 230, 3, 5, 230, 205, 1, 9, 3, 1, 7, 23, 1, 230, 99, 1, 9, 0, 1, 7, 251, 1, 9, 0, 1, 7,
   126, 1, 9, 118, 1, 9, 0, 1, 7, 115, 1, 9, 269, 1, 9, 0, 1, 7, 258, 2, 9, 4, 1, 7, 156, 1, 9, 83,
   1, 9, 18, 1, 9, 81, 1, 9, 421, 1, 9, 258, 1, 7, 1, 2, 9, 81, 1, 9, 19800, 5, 1, 59, 7, 230, 1209,
   2, 6, 19628, 1, 1, 5318, 2, 216, 0, 3, 1, 3, 1, 226, 0, 5, 216, 8, 8, 220, 2, 5, 230, 0, 2, 220,
   30, 4, 230, 148, 3, 230, 3515, 7, 230, 1, 17, 230, 2, 7, 230, 1, 2, 230, 1, 5, 230, 261, 7, 230,
   375, 1, 230, 61, 4, 230, 1504, 7, 220, 109, 6, 230, 0, 1, 7]

/-- For each mark, letters and the letters with that mark. -/
def compositions : List (Nat × List Nat) :=
  [(768, [65, 192, 69, 200, 73, 204, 78, 504, 79, 210, 85, 217, 87, 7808, 89, 7922, 97, 224, 101,
     232, 105, 236, 110, 505, 111, 242, 117, 249, 119, 7809, 121, 7923, 194, 7846, 202, 7872, 212,
     7890, 220, 475, 226, 7847, 234, 7873, 244, 7891, 252, 476, 258, 7856, 259, 7857, 274, 7700,
     275, 7701, 332, 7760, 333, 7761, 416, 7900, 417, 7901, 431, 7914, 432, 7915, 913, 8122, 917,
     8136, 919, 8138, 921, 8154, 927, 8184, 933, 8170, 937, 8186, 945, 8048, 949, 8050, 951, 8052,
     953, 8054, 959, 8056, 965, 8058, 969, 8060, 970, 8146, 971, 8162, 1045, 1024, 1048, 1037, 1077,
     1104, 1080, 1117, 7936, 7938, 7937, 7939, 7944, 7946, 7945, 7947, 7952, 7954, 7953, 7955, 7960,
     7962, 7961, 7963, 7968, 7970, 7969, 7971, 7976, 7978, 7977, 7979, 7984, 7986, 7985, 7987, 7992,
     7994, 7993, 7995, 8000, 8002, 8001, 8003, 8008, 8010, 8009, 8011, 8016, 8018, 8017, 8019, 8025,
     8027, 8032, 8034, 8033, 8035, 8040, 8042, 8041, 8043]),
   (769, [65, 193, 67, 262, 69, 201, 71, 500, 73, 205, 75, 7728, 76, 313, 77, 7742, 78, 323, 79,
     211, 80, 7764, 82, 340, 83, 346, 85, 218, 87, 7810, 89, 221, 90, 377, 97, 225, 99, 263, 101,
     233, 103, 501, 105, 237, 107, 7729, 108, 314, 109, 7743, 110, 324, 111, 243, 112, 7765, 114,
     341, 115, 347, 117, 250, 119, 7811, 121, 253, 122, 378, 194, 7844, 197, 506, 198, 508, 199,
     7688, 202, 7870, 207, 7726, 212, 7888, 213, 7756, 216, 510, 220, 471, 226, 7845, 229, 507, 230,
     509, 231, 7689, 234, 7871, 239, 7727, 244, 7889, 245, 7757, 248, 511, 252, 472, 258, 7854, 259,
     7855, 274, 7702, 275, 7703, 332, 7762, 333, 7763, 360, 7800, 361, 7801, 416, 7898, 417, 7899,
     431, 7912, 432, 7913, 913, 902, 917, 904, 919, 905, 921, 906, 927, 908, 933, 910, 937, 911,
     945, 940, 949, 941, 951, 942, 953, 943, 959, 972, 965, 973, 969, 974, 970, 912, 971, 944, 978,
     979, 1043, 1027, 1050, 1036, 1075, 1107, 1082, 1116, 7936, 7940, 7937, 7941, 7944, 7948, 7945,
     7949, 7952, 7956, 7953, 7957, 7960, 7964, 7961, 7965, 7968, 7972, 7969, 7973, 7976, 7980, 7977,
     7981, 7984, 7988, 7985, 7989, 7992, 7996, 7993, 7997, 8000, 8004, 8001, 8005, 8008, 8012, 8009,
     8013, 8016, 8020, 8017, 8021, 8025, 8029, 8032, 8036, 8033, 8037, 8040, 8044, 8041, 8045]),
   (770, [65, 194, 67, 264, 69, 202, 71, 284, 72, 292, 73, 206, 74, 308, 79, 212, 83, 348, 85, 219,
     87, 372, 89, 374, 90, 7824, 97, 226, 99, 265, 101, 234, 103, 285, 104, 293, 105, 238, 106, 309,
     111, 244, 115, 349, 117, 251, 119, 373, 121, 375, 122, 7825, 7840, 7852, 7841, 7853, 7864,
     7878, 7865, 7879, 7884, 7896, 7885, 7897]),
   (771, [65, 195, 69, 7868, 73, 296, 78, 209, 79, 213, 85, 360, 86, 7804, 89, 7928, 97, 227, 101,
     7869, 105, 297, 110, 241, 111, 245, 117, 361, 118, 7805, 121, 7929, 194, 7850, 202, 7876, 212,
     7894, 226, 7851, 234, 7877, 244, 7895, 258, 7860, 259, 7861, 416, 7904, 417, 7905, 431, 7918,
     432, 7919]),
   (772, [65, 256, 69, 274, 71, 7712, 73, 298, 79, 332, 85, 362, 89, 562, 97, 257, 101, 275, 103,
     7713, 105, 299, 111, 333, 117, 363, 121, 563, 196, 478, 198, 482, 213, 556, 214, 554, 220, 469,
     228, 479, 230, 483, 245, 557, 246, 555, 252, 470, 490, 492, 491, 493, 550, 480, 551, 481, 558,
     560, 559, 561, 913, 8121, 921, 8153, 933, 8169, 945, 8113, 953, 8145, 965, 8161, 1048, 1250,
     1059, 1262, 1080, 1251, 1091, 1263, 7734, 7736, 7735, 7737, 7770, 7772, 7771, 7773]),
   (774, [65, 258, 69, 276, 71, 286, 73, 300, 79, 334, 85, 364, 97, 259, 101, 277, 103, 287, 105,
     301, 111, 335, 117, 365, 552, 7708, 553, 7709, 913, 8120, 921, 8152, 933, 8168, 945, 8112, 953,
     8144, 965, 8160, 1040, 1232, 1045, 1238, 1046, 1217, 1048, 1049, 1059, 1038, 1072, 1233, 1077,
     1239, 1078, 1218, 1080, 1081, 1091, 1118, 7840, 7862, 7841, 7863]),
   (775, [65, 550, 66, 7682, 67, 266, 68, 7690, 69, 278, 70, 7710, 71, 288, 72, 7714, 73, 304, 77,
     7744, 78, 7748, 79, 558, 80, 7766, 82, 7768, 83, 7776, 84, 7786, 87, 7814, 88, 7818, 89, 7822,
     90, 379, 97, 551, 98, 7683, 99, 267, 100, 7691, 101, 279, 102, 7711, 103, 289, 104, 7715, 109,
     7745, 110, 7749, 111, 559, 112, 7767, 114, 7769, 115, 7777, 116, 7787, 119, 7815, 120, 7819,
     121, 7823, 122, 380, 346, 7780, 347, 7781, 352, 7782, 353, 7783, 383, 7835, 7778, 7784, 7779,
     7785]),
   (776, [65, 196, 69, 203, 72, 7718, 73, 207, 79, 214, 85, 220, 87, 7812, 88, 7820, 89, 376, 97,
     228, 101, 235, 104, 7719, 105, 239, 111, 246, 116, 7831, 117, 252, 119, 7813, 120, 7821, 121,
     255, 213, 7758, 245, 7759, 362, 7802, 363, 7803, 921, 938, 933, 939, 953, 970, 965, 971, 978,
     980, 1030, 1031, 1040, 1234, 1045, 1025, 1046, 1244, 1047, 1246, 1048, 1252, 1054, 1254, 1059,
     1264, 1063, 1268, 1067, 1272, 1069, 1260, 1072, 1235, 1077, 1105, 1078, 1245, 1079, 1247, 1080,
     1253, 1086, 1255, 1091, 1265, 1095, 1269, 1099, 1273, 1101, 1261, 1110, 1111, 1240, 1242, 1241,
     1243, 1256, 1258, 1257, 1259]),
   (777, [65, 7842, 69, 7866, 73, 7880, 79, 7886, 85, 7910, 89, 7926, 97, 7843, 101, 7867, 105,
     7881, 111, 7887, 117, 7911, 121, 7927, 194, 7848, 202, 7874, 212, 7892, 226, 7849, 234, 7875,
     244, 7893, 258, 7858, 259, 7859, 416, 7902, 417, 7903, 431, 7916, 432, 7917]),
   (778, [65, 197, 85, 366, 97, 229, 117, 367, 119, 7832, 121, 7833]),
   (779, [79, 336, 85, 368, 111, 337, 117, 369, 1059, 1266, 1091, 1267]),
   (780, [65, 461, 67, 268, 68, 270, 69, 282, 71, 486, 72, 542, 73, 463, 75, 488, 76, 317, 78, 327,
     79, 465, 82, 344, 83, 352, 84, 356, 85, 467, 90, 381, 97, 462, 99, 269, 100, 271, 101, 283,
     103, 487, 104, 543, 105, 464, 106, 496, 107, 489, 108, 318, 110, 328, 111, 466, 114, 345, 115,
     353, 116, 357, 117, 468, 122, 382, 220, 473, 252, 474, 439, 494, 658, 495]),
   (783, [65, 512, 69, 516, 73, 520, 79, 524, 82, 528, 85, 532, 97, 513, 101, 517, 105, 521, 111,
     525, 114, 529, 117, 533, 1140, 1142, 1141, 1143]),
   (785, [65, 514, 69, 518, 73, 522, 79, 526, 82, 530, 85, 534, 97, 515, 101, 519, 105, 523, 111,
     527, 114, 531, 117, 535]),
   (787, [913, 7944, 917, 7960, 919, 7976, 921, 7992, 927, 8008, 937, 8040, 945, 7936, 949, 7952,
     951, 7968, 953, 7984, 959, 8000, 961, 8164, 965, 8016, 969, 8032]),
   (788, [913, 7945, 917, 7961, 919, 7977, 921, 7993, 927, 8009, 929, 8172, 933, 8025, 937, 8041,
     945, 7937, 949, 7953, 951, 7969, 953, 7985, 959, 8001, 961, 8165, 965, 8017, 969, 8033]),
   (795, [79, 416, 85, 431, 111, 417, 117, 432]),
   (803, [65, 7840, 66, 7684, 68, 7692, 69, 7864, 72, 7716, 73, 7882, 75, 7730, 76, 7734, 77, 7746,
     78, 7750, 79, 7884, 82, 7770, 83, 7778, 84, 7788, 85, 7908, 86, 7806, 87, 7816, 89, 7924, 90,
     7826, 97, 7841, 98, 7685, 100, 7693, 101, 7865, 104, 7717, 105, 7883, 107, 7731, 108, 7735,
     109, 7747, 110, 7751, 111, 7885, 114, 7771, 115, 7779, 116, 7789, 117, 7909, 118, 7807, 119,
     7817, 121, 7925, 122, 7827, 416, 7906, 417, 7907, 431, 7920, 432, 7921]),
   (804, [85, 7794, 117, 7795]),
   (805, [65, 7680, 97, 7681]),
   (806, [83, 536, 84, 538, 115, 537, 116, 539]),
   (807, [67, 199, 68, 7696, 69, 552, 71, 290, 72, 7720, 75, 310, 76, 315, 78, 325, 82, 342, 83,
     350, 84, 354, 99, 231, 100, 7697, 101, 553, 103, 291, 104, 7721, 107, 311, 108, 316, 110, 326,
     114, 343, 115, 351, 116, 355]),
   (808, [65, 260, 69, 280, 73, 302, 79, 490, 85, 370, 97, 261, 101, 281, 105, 303, 111, 491, 117,
     371]),
   (813, [68, 7698, 69, 7704, 76, 7740, 78, 7754, 84, 7792, 85, 7798, 100, 7699, 101, 7705, 108,
     7741, 110, 7755, 116, 7793, 117, 7799]),
   (814, [72, 7722, 104, 7723]),
   (816, [69, 7706, 73, 7724, 85, 7796, 101, 7707, 105, 7725, 117, 7797]),
   (817, [66, 7686, 68, 7694, 75, 7732, 76, 7738, 78, 7752, 82, 7774, 84, 7790, 90, 7828, 98, 7687,
     100, 7695, 104, 7830, 107, 7733, 108, 7739, 110, 7753, 114, 7775, 116, 7791, 122, 7829]),
   (834, [945, 8118, 951, 8134, 953, 8150, 965, 8166, 969, 8182, 970, 8151, 971, 8167, 7936, 7942,
     7937, 7943, 7944, 7950, 7945, 7951, 7968, 7974, 7969, 7975, 7976, 7982, 7977, 7983, 7984, 7990,
     7985, 7991, 7992, 7998, 7993, 7999, 8016, 8022, 8017, 8023, 8025, 8031, 8032, 8038, 8033, 8039,
     8040, 8046, 8041, 8047]),
   (837, [913, 8124, 919, 8140, 937, 8188, 940, 8116, 942, 8132, 945, 8115, 951, 8131, 969, 8179,
     974, 8180, 7936, 8064, 7937, 8065, 7938, 8066, 7939, 8067, 7940, 8068, 7941, 8069, 7942, 8070,
     7943, 8071, 7944, 8072, 7945, 8073, 7946, 8074, 7947, 8075, 7948, 8076, 7949, 8077, 7950, 8078,
     7951, 8079, 7968, 8080, 7969, 8081, 7970, 8082, 7971, 8083, 7972, 8084, 7973, 8085, 7974, 8086,
     7975, 8087, 7976, 8088, 7977, 8089, 7978, 8090, 7979, 8091, 7980, 8092, 7981, 8093, 7982, 8094,
     7983, 8095, 8032, 8096, 8033, 8097, 8034, 8098, 8035, 8099, 8036, 8100, 8037, 8101, 8038, 8102,
     8039, 8103, 8040, 8104, 8041, 8105, 8042, 8106, 8043, 8107, 8044, 8108, 8045, 8109, 8046, 8110,
     8047, 8111, 8048, 8114, 8052, 8130, 8060, 8178, 8118, 8119, 8134, 8135, 8182, 8183]),
   (1619, [1575, 1570]),
   (1620, [1575, 1571, 1608, 1572, 1610, 1574, 1729, 1730, 1746, 1747, 1749, 1728]),
   (1621, [1575, 1573]),
   (2364, [2344, 2345, 2352, 2353, 2355, 2356]),
   (2494, [2503, 2507]),
   (2519, [2503, 2508]),
   (2878, [2887, 2891]),
   (2902, [2887, 2888]),
   (2903, [2887, 2892]),
   (3006, [3014, 3018, 3015, 3019]),
   (3031, [2962, 2964, 3014, 3020]),
   (3158, [3142, 3144]),
   (3266, [3270, 3274]),
   (3285, [3263, 3264, 3270, 3271, 3274, 3275]),
   (3286, [3270, 3272]),
   (3390, [3398, 3402, 3399, 3403]),
   (3415, [3398, 3404]),
   (3530, [3545, 3546, 3548, 3549]),
   (3535, [3545, 3548]),
   (3551, [3545, 3550]),
   (4142, [4133, 4134]),
   (6965, [6917, 6918, 6919, 6920, 6921, 6922, 6923, 6924, 6925, 6926, 6929, 6930, 6970, 6971, 6972,
     6973, 6974, 6976, 6975, 6977, 6978, 6979]),
   (12441, [12358, 12436, 12363, 12364, 12365, 12366, 12367, 12368, 12369, 12370, 12371, 12372,
     12373, 12374, 12375, 12376, 12377, 12378, 12379, 12380, 12381, 12382, 12383, 12384, 12385,
     12386, 12388, 12389, 12390, 12391, 12392, 12393, 12399, 12400, 12402, 12403, 12405, 12406,
     12408, 12409, 12411, 12412, 12445, 12446, 12454, 12532, 12459, 12460, 12461, 12462, 12463,
     12464, 12465, 12466, 12467, 12468, 12469, 12470, 12471, 12472, 12473, 12474, 12475, 12476,
     12477, 12478, 12479, 12480, 12481, 12482, 12484, 12485, 12486, 12487, 12488, 12489, 12495,
     12496, 12498, 12499, 12501, 12502, 12504, 12505, 12507, 12508, 12527, 12535, 12528, 12536,
     12529, 12537, 12530, 12538, 12541, 12542]),
   (12442, [12399, 12401, 12402, 12404, 12405, 12407, 12408, 12410, 12411, 12413, 12495, 12497,
     12498, 12500, 12501, 12503, 12504, 12506, 12507, 12509]),
   (69818, [69785, 69786, 69787, 69788, 69797, 69803]),
   (69927, [69937, 69934, 69938, 69935]),
   (70462, [70471, 70475]),
   (70487, [70471, 70476]),
   (70832, [70841, 70844]),
   (70842, [70841, 70843]),
   (70845, [70841, 70846]),
   (71087, [71096, 71098, 71097, 71099]),
   (71984, [71989, 71992])]

/-- The runs of the characters that stand for one other each, from the given character on: how many
characters lie between it and the one before, its length, and what its first character stands for.
-/
def singles : List (Nat × List Nat) :=
  [(170, [0, 1, 97, 10, 1, 956, 4, 1, 111, 196, 1, 115, 304, 1, 104, 0, 1, 614, 0, 1, 106, 0, 1,
     114, 0, 1, 633, 0, 1, 635, 0, 1, 641, 0, 1, 119, 0, 1, 121, 39, 1, 611, 0, 1, 108, 0, 1, 115,
     0, 1, 120, 0, 1, 661, 91, 2, 768, 1, 1, 787, 48, 1, 697, 18, 1, 183, 72, 1, 946, 0, 1, 952, 0,
     1, 933, 2, 1, 966, 0, 1, 960, 25, 1, 954, 0, 2, 961, 1, 1, 920, 0, 1, 949, 3, 1, 931]),
   (4348, [0, 1, 4316]),
   (7468, [0, 1, 65, 0, 1, 198, 0, 1, 66, 1, 2, 68, 0, 1, 398, 0, 8, 71, 1, 1, 79, 0, 1, 546, 0, 1,
     80, 0, 1, 82, 0, 2, 84, 0, 1, 87, 0, 1, 97, 0, 2, 592, 0, 1, 7426, 0, 1, 98, 0, 2, 100, 0, 1,
     601, 0, 2, 603, 0, 1, 103, 1, 1, 107, 0, 1, 109, 0, 1, 331, 0, 1, 111, 0, 1, 596, 0, 2, 7446,
     0, 1, 112, 0, 2, 116, 0, 1, 7453, 0, 1, 623, 0, 1, 118, 0, 1, 7461, 0, 3, 946, 0, 2, 966, 0, 1,
     105, 0, 1, 114, 0, 2, 117, 0, 2, 946, 0, 1, 961, 0, 2, 966, 13, 1, 1085, 34, 1, 594, 0, 1, 99,
     0, 1, 597, 0, 1, 240, 0, 1, 604, 0, 1, 102, 0, 1, 607, 0, 1, 609, 0, 1, 613, 0, 3, 616, 0, 1,
     7547, 0, 1, 669, 0, 1, 621, 0, 1, 7557, 0, 1, 671, 0, 1, 625, 0, 1, 624, 0, 4, 626, 0, 1, 632,
     0, 2, 642, 0, 1, 427, 0, 2, 649, 0, 1, 7452, 0, 2, 651, 0, 1, 122, 0, 3, 656, 0, 1, 952, 510,
     1, 953, 178, 1, 105, 13, 1, 110, 16, 1, 97, 0, 1, 101, 0, 1, 111, 0, 1, 120, 0, 1, 601, 0, 1,
     104, 0, 4, 107, 0, 1, 112, 0, 2, 115, 101, 1, 67, 4, 1, 400, 2, 1, 103, 0, 1, 72, 0, 1, 72, 0,
     1, 72, 0, 1, 104, 0, 1, 295, 0, 1, 73, 0, 1, 73, 0, 1, 76, 0, 1, 108, 1, 1, 78, 3, 3, 80, 0, 1,
     82, 0, 1, 82, 6, 1, 90, 1, 1, 937, 1, 1, 90, 1, 1, 75, 1, 2, 66, 1, 1, 101, 0, 2, 69, 1, 1, 77,
     0, 1, 111, 0, 4, 1488, 0, 1, 105, 2, 1, 960, 0, 1, 947, 0, 1, 915, 0, 1, 928, 5, 1, 68, 0, 2,
     100, 0, 2, 105, 22, 1, 73, 3, 1, 86, 4, 1, 88, 2, 1, 76, 0, 2, 67, 0, 1, 77]),
   (8560, [0, 1, 105, 3, 1, 118, 4, 1, 120, 2, 1, 108, 0, 2, 99, 0, 1, 109]),
   (11388, [0, 1, 106, 0, 1, 86, 241, 1, 11617, 712, 1, 21313, 0, 2, 21316, 246, 2, 4352, 0, 1,
     4522, 0, 1, 4354, 0, 2, 4524, 0, 3, 4355, 0, 6, 4528, 0, 1, 4378, 0, 3, 4358, 0, 1, 4385, 0,
     10, 4361, 0, 21, 4449, 0, 1, 4448, 0, 2, 4372, 0, 2, 4551, 0, 1, 4556, 0, 1, 4558, 0, 1, 4563,
     0, 1, 4567, 0, 1, 4569, 0, 1, 4380, 0, 1, 4573, 0, 1, 4575, 0, 2, 4381, 0, 1, 4384, 0, 2, 4386,
     0, 1, 4391, 0, 1, 4393, 0, 5, 4395, 0, 1, 4402, 0, 1, 4406, 0, 1, 4416, 0, 1, 4423, 0, 1, 4428,
     0, 2, 4593, 0, 3, 4439, 0, 2, 4484, 0, 1, 4488, 0, 2, 4497, 0, 1, 4500, 0, 1, 4510, 0, 1,
     4513]),
   (42652, [0, 1, 1098, 0, 1, 1100, 210, 1, 42863, 129, 1, 67, 0, 1, 70, 0, 1, 81, 3, 1, 294, 0, 1,
     339, 866, 1, 42791, 0, 1, 43831, 0, 1, 619, 0, 1, 43858, 9, 1, 653]),
   (64288, [0, 1, 1506, 0, 1, 1488, 0, 2, 1491, 0, 3, 1499, 0, 1, 1512, 0, 1, 1514, 39, 1, 1649, 0,
     1, 1649, 0, 1, 1659, 0, 1, 1659, 0, 1, 1659, 0, 1, 1659, 0, 1, 1662, 0, 1, 1662, 0, 1, 1662, 0,
     1, 1662, 0, 1, 1664, 0, 1, 1664, 0, 1, 1664, 0, 1, 1664, 0, 1, 1658, 0, 1, 1658, 0, 1, 1658, 0,
     1, 1658, 0, 1, 1663, 0, 1, 1663, 0, 1, 1663, 0, 1, 1663, 0, 1, 1657, 0, 1, 1657, 0, 1, 1657, 0,
     1, 1657, 0, 1, 1700, 0, 1, 1700, 0, 1, 1700, 0, 1, 1700, 0, 1, 1702, 0, 1, 1702, 0, 1, 1702, 0,
     1, 1702, 0, 1, 1668, 0, 1, 1668, 0, 1, 1668, 0, 1, 1668, 0, 1, 1667, 0, 1, 1667, 0, 1, 1667, 0,
     1, 1667, 0, 1, 1670, 0, 1, 1670, 0, 1, 1670, 0, 2, 1670, 0, 1, 1671, 0, 1, 1671, 0, 1, 1671, 0,
     1, 1677, 0, 1, 1677, 0, 1, 1676, 0, 1, 1676, 0, 1, 1678, 0, 1, 1678, 0, 1, 1672, 0, 1, 1672, 0,
     1, 1688, 0, 1, 1688, 0, 1, 1681, 0, 1, 1681, 0, 1, 1705, 0, 1, 1705, 0, 1, 1705, 0, 1, 1705, 0,
     1, 1711, 0, 1, 1711, 0, 1, 1711, 0, 1, 1711, 0, 1, 1715, 0, 1, 1715, 0, 1, 1715, 0, 1, 1715, 0,
     1, 1713, 0, 1, 1713, 0, 1, 1713, 0, 1, 1713, 0, 1, 1722, 0, 2, 1722, 0, 1, 1723, 0, 1, 1723, 0,
     1, 1723, 2, 1, 1729, 0, 1, 1729, 0, 1, 1729, 0, 1, 1729, 0, 1, 1726, 0, 1, 1726, 0, 1, 1726, 0,
     1, 1726, 0, 1, 1746, 0, 1, 1746, 35, 1, 1709, 0, 1, 1709, 0, 1, 1709, 0, 1, 1709, 0, 1, 1735,
     0, 1, 1735, 0, 1, 1734, 0, 1, 1734, 0, 1, 1736, 0, 1, 1736, 1, 1, 1739, 0, 1, 1739, 0, 1, 1733,
     0, 1, 1733, 0, 1, 1737, 0, 1, 1737, 0, 1, 1744, 0, 1, 1744, 0, 1, 1744, 0, 1, 1744, 0, 1, 1609,
     0, 1, 1609]),
   (64508, [0, 1, 1740, 0, 1, 1740, 0, 1, 1740, 0, 1, 1740, 563, 1, 95, 0, 1, 95, 24, 1, 95, 0, 1,
     95, 0, 1, 95, 48, 1, 1569, 12, 1, 1575, 0, 2, 1575, 0, 1, 1576, 0, 1, 1576, 0, 2, 1576, 0, 2,
     1577, 0, 1, 1578, 0, 1, 1578, 0, 2, 1578, 0, 1, 1579, 0, 1, 1579, 0, 2, 1579, 0, 1, 1580, 0, 1,
     1580, 0, 2, 1580, 0, 1, 1581, 0, 1, 1581, 0, 2, 1581, 0, 1, 1582, 0, 1, 1582, 0, 2, 1582, 0, 2,
     1583, 0, 2, 1584, 0, 2, 1585, 0, 2, 1586, 0, 1, 1587, 0, 1, 1587, 0, 2, 1587, 0, 1, 1588, 0, 1,
     1588, 0, 2, 1588, 0, 1, 1589, 0, 1, 1589, 0, 2, 1589, 0, 1, 1590, 0, 1, 1590, 0, 2, 1590, 0, 1,
     1591, 0, 1, 1591, 0, 2, 1591, 0, 1, 1592, 0, 1, 1592, 0, 2, 1592, 0, 1, 1593, 0, 1, 1593, 0, 2,
     1593, 0, 1, 1594, 0, 1, 1594, 0, 1, 1594, 0, 1, 1601, 0, 1, 1601, 0, 1, 1601, 0, 2, 1601, 0, 1,
     1602, 0, 1, 1602, 0, 2, 1602, 0, 1, 1603, 0, 1, 1603, 0, 2, 1603, 0, 1, 1604, 0, 1, 1604, 0, 2,
     1604, 0, 1, 1605, 0, 1, 1605, 0, 2, 1605, 0, 1, 1606, 0, 1, 1606, 0, 2, 1606, 0, 1, 1607, 0, 1,
     1607, 0, 2, 1607, 0, 2, 1608, 0, 2, 1609, 0, 1, 1610, 0, 1, 1610, 0, 1, 1610, 27, 10, 48, 7,
     26, 65, 4, 1, 95, 1, 26, 97, 11, 1, 12530, 0, 1, 12449, 0, 1, 12451, 0, 1, 12453, 0, 1, 12455,
     0, 1, 12457, 0, 1, 12515, 0, 1, 12517, 0, 1, 12519, 0, 1, 12483, 0, 1, 12540, 0, 1, 12450, 0,
     1, 12452, 0, 1, 12454, 0, 1, 12456, 0, 2, 12458, 0, 1, 12461, 0, 1, 12463, 0, 1, 12465, 0, 1,
     12467, 0, 1, 12469, 0, 1, 12471, 0, 1, 12473, 0, 1, 12475, 0, 1, 12477, 0, 1, 12479, 0, 1,
     12481, 0, 1, 12484, 0, 1, 12486, 0, 1, 12488]),
   (65413, [0, 6, 12490, 0, 1, 12498, 0, 1, 12501, 0, 1, 12504, 0, 1, 12507, 0, 5, 12510, 0, 1,
     12516, 0, 1, 12518, 0, 6, 12520, 0, 1, 12527, 0, 1, 12531, 0, 2, 12441, 0, 1, 4448, 0, 2, 4352,
     0, 1, 4522, 0, 1, 4354, 0, 2, 4524, 0, 3, 4355, 0, 6, 4528, 0, 1, 4378, 0, 3, 4358, 0, 1, 4385,
     0, 10, 4361, 3, 6, 4449, 2, 6, 4455, 2, 6, 4461, 2, 3, 4467]),
   (67457, [0, 2, 720, 0, 1, 230, 0, 1, 665, 0, 1, 595, 1, 1, 675, 0, 1, 43878, 0, 1, 677, 0, 1,
     676, 0, 2, 598, 0, 1, 7569, 0, 1, 600, 0, 1, 606, 0, 1, 681, 0, 1, 612, 0, 1, 610, 0, 1, 608,
     0, 1, 667, 0, 1, 295, 0, 1, 668, 0, 1, 615, 0, 1, 644, 0, 2, 682, 0, 1, 620, 0, 1, 122628, 0,
     1, 42894, 0, 1, 622, 0, 1, 122629, 0, 1, 654, 0, 1, 122630, 0, 1, 248, 0, 2, 630, 0, 1, 113, 0,
     1, 634, 0, 1, 122632, 0, 2, 637, 0, 1, 640, 0, 1, 680, 0, 1, 678, 0, 1, 43879, 0, 1, 679, 0, 1,
     648, 0, 1, 11377, 1, 1, 655, 0, 2, 673, 0, 1, 664, 0, 3, 448, 0, 1, 122634, 0, 1, 122654]),
   (119808, [0, 26, 65, 0, 26, 97, 0, 26, 65, 0, 7, 97, 1, 18, 105, 0, 26, 65, 0, 26, 97, 0, 1, 65,
     1, 2, 67, 2, 1, 71, 2, 2, 74, 2, 4, 78, 1, 8, 83, 0, 4, 97, 1, 1, 102, 1, 7, 104, 1, 11, 112,
     0, 26, 65, 0, 26, 97, 0, 2, 65, 1, 4, 68, 2, 8, 74, 1, 7, 83, 1, 26, 97, 0, 2, 65, 1, 4, 68, 1,
     5, 73, 1, 1, 79, 3, 7, 83, 1, 26, 97, 0, 26, 65, 0, 26, 97, 0, 26, 65, 0, 26, 97, 0, 26, 65, 0,
     26, 97, 0, 26, 65, 0, 26, 97, 0, 26, 65, 0, 26, 97, 0, 26, 65, 0, 26, 97, 0, 1, 305, 0, 1, 567,
     2, 17, 913, 0, 1, 920, 0, 7, 931, 1, 25, 945, 1, 1, 949, 0, 1, 952, 0, 1, 954, 0, 1, 966, 0, 1,
     961, 0, 1, 960, 0, 17, 913, 0, 1, 920, 0, 7, 931, 1, 25, 945, 1, 1, 949, 0, 1, 952, 0, 1, 954,
     0, 1, 966, 0, 1, 961, 0, 1, 960, 0, 17, 913, 0, 1, 920, 0, 7, 931, 1, 25, 945, 1, 1, 949, 0, 1,
     952, 0, 1, 954, 0, 1, 966, 0, 1, 961, 0, 1, 960, 0, 17, 913, 0, 1, 920, 0, 7, 931, 1, 25, 945,
     1, 1, 949, 0, 1, 952, 0, 1, 954, 0, 1, 966, 0, 1, 961, 0, 1, 960, 0, 17, 913, 0, 1, 920, 0, 7,
     931, 1, 25, 945, 1, 1, 949, 0, 1, 952, 0, 1, 954, 0, 1, 966, 0, 1, 961, 0, 1, 960, 0, 2, 988,
     2, 10, 48, 0, 10, 48, 0, 10, 48, 0, 10, 48, 0, 10, 48]),
   (126464, [0, 2, 1575, 0, 1, 1580, 0, 1, 1583, 1, 1, 1608, 0, 1, 1586, 0, 1, 1581, 0, 1, 1591, 0,
     1, 1610, 0, 4, 1603, 0, 1, 1587, 0, 1, 1593, 0, 1, 1601, 0, 1, 1589, 0, 1, 1602, 0, 1, 1585, 0,
     1, 1588, 0, 2, 1578, 0, 1, 1582, 0, 1, 1584, 0, 1, 1590, 0, 1, 1592, 0, 1, 1594, 0, 1, 1646, 0,
     1, 1722, 0, 1, 1697, 0, 1, 1647, 1, 1, 1576, 0, 1, 1580, 1, 1, 1607, 2, 1, 1581, 1, 1, 1610, 0,
     4, 1603, 0, 1, 1587, 0, 1, 1593, 0, 1, 1601, 0, 1, 1589, 0, 1, 1602, 1, 1, 1588, 0, 2, 1578, 0,
     1, 1582, 1, 1, 1590, 1, 1, 1594, 6, 1, 1580, 4, 1, 1581, 1, 1, 1610, 1, 1, 1604, 1, 1, 1606, 0,
     1, 1587, 0, 1, 1593, 1, 1, 1589, 0, 1, 1602, 1, 1, 1588, 2, 1, 1582, 1, 1, 1590, 1, 1, 1594, 1,
     1, 1722, 1, 1, 1647, 1, 1, 1576, 0, 1, 1580, 1, 1, 1607, 2, 1, 1581, 0, 1, 1591, 0, 1, 1610, 0,
     1, 1603, 1, 2, 1605, 0, 1, 1587, 0, 1, 1593, 0, 1, 1601, 0, 1, 1589, 0, 1, 1602, 1, 1, 1588, 0,
     2, 1578, 0, 1, 1582, 1, 1, 1590, 0, 1, 1592, 0, 1, 1594, 0, 1, 1646, 1, 1, 1697, 1, 2, 1575, 0,
     1, 1580, 0, 1, 1583, 0, 2, 1607, 0, 1, 1586, 0, 1, 1581, 0, 1, 1591, 0, 1, 1610, 1, 3, 1604, 0,
     1, 1587, 0, 1, 1593, 0, 1, 1601, 0, 1, 1589, 0, 1, 1602, 0, 1, 1585, 0, 1, 1588, 0, 2, 1578, 0,
     1, 1582, 0, 1, 1584, 0, 1, 1590, 0, 1, 1592, 0, 1, 1594, 5, 1, 1576, 0, 1, 1580, 0, 1, 1583, 1,
     1, 1608, 0, 1, 1586, 0, 1, 1581, 0, 1, 1591, 0, 1, 1610, 1, 3, 1604, 0, 1, 1587, 0, 1, 1593, 0,
     1, 1601, 0, 1, 1589, 0, 1, 1602, 0, 1, 1585, 0, 1, 1588, 0, 2, 1578, 0, 1, 1582, 0, 1, 1584, 0,
     1, 1590]),
   (126650, [0, 1, 1592, 0, 1, 1594]),
   (130032, [0, 10, 48])]

/-- The same for ideographs. -/
def ideographs : List (Nat × List Nat) :=
  [(63744, [0, 1, 35912, 0, 1, 26356, 0, 1, 36554, 0, 1, 36040, 0, 1, 28369, 0, 1, 20018, 0, 1,
     21477, 0, 1, 40860, 0, 1, 40860, 0, 1, 22865, 0, 1, 37329, 0, 1, 21895, 0, 1, 22856, 0, 1,
     25078, 0, 1, 30313, 0, 1, 32645, 0, 1, 34367, 0, 1, 34746, 0, 1, 35064, 0, 1, 37007, 0, 1,
     27138, 0, 1, 27931, 0, 1, 28889, 0, 1, 29662, 0, 1, 33853, 0, 1, 37226, 0, 1, 39409, 0, 1,
     20098, 0, 1, 21365, 0, 1, 27396, 0, 1, 29211, 0, 1, 34349, 0, 1, 40478, 0, 1, 23888, 0, 1,
     28651, 0, 1, 34253, 0, 1, 35172, 0, 1, 25289, 0, 1, 33240, 0, 1, 34847, 0, 1, 24266, 0, 1,
     26391, 0, 1, 28010, 0, 1, 29436, 0, 1, 37070, 0, 1, 20358, 0, 1, 20919, 0, 1, 21214, 0, 1,
     25796, 0, 1, 27347, 0, 1, 29200, 0, 1, 30439, 0, 1, 32769, 0, 1, 34310, 0, 1, 34396, 0, 1,
     36335, 0, 1, 38706, 0, 1, 39791, 0, 1, 40442, 0, 1, 30860, 0, 1, 31103, 0, 1, 32160, 0, 1,
     33737, 0, 1, 37636, 0, 1, 40575, 0, 1, 35542, 0, 1, 22751, 0, 1, 24324, 0, 1, 31840, 0, 1,
     32894, 0, 1, 29282, 0, 1, 30922, 0, 1, 36034, 0, 1, 38647, 0, 1, 22744, 0, 1, 23650, 0, 1,
     27155, 0, 1, 28122, 0, 1, 28431, 0, 1, 32047, 0, 1, 32311, 0, 1, 38475, 0, 1, 21202, 0, 1,
     32907, 0, 1, 20956, 0, 1, 20940, 0, 1, 31260, 0, 1, 32190, 0, 1, 33777, 0, 1, 38517, 0, 1,
     35712, 0, 1, 25295, 0, 1, 27138, 0, 1, 35582, 0, 1, 20025, 0, 1, 23527, 0, 1, 24594, 0, 1,
     29575, 0, 1, 30064, 0, 1, 21271, 0, 1, 30971, 0, 1, 20415, 0, 1, 24489, 0, 1, 19981, 0, 1,
     27852, 0, 1, 25976, 0, 1, 32034, 0, 1, 21443, 0, 1, 22622, 0, 1, 30465, 0, 1, 33865, 0, 1,
     35498, 0, 1, 27578, 0, 1, 36784, 0, 1, 27784, 0, 1, 25342, 0, 1, 33509, 0, 1, 25504, 0, 1,
     30053, 0, 1, 20142]),
   (63864, [0, 1, 20841, 0, 1, 20937, 0, 1, 26753, 0, 1, 31975, 0, 1, 33391, 0, 1, 35538, 0, 1,
     37327, 0, 1, 21237, 0, 1, 21570, 0, 1, 22899, 0, 1, 24300, 0, 1, 26053, 0, 1, 28670, 0, 1,
     31018, 0, 1, 38317, 0, 1, 39530, 0, 1, 40599, 0, 1, 40654, 0, 1, 21147, 0, 1, 26310, 0, 1,
     27511, 0, 1, 36706, 0, 1, 24180, 0, 1, 24976, 0, 1, 25088, 0, 1, 25754, 0, 1, 28451, 0, 1,
     29001, 0, 1, 29833, 0, 1, 31178, 0, 1, 32244, 0, 1, 32879, 0, 1, 36646, 0, 1, 34030, 0, 1,
     36899, 0, 1, 37706, 0, 1, 21015, 0, 1, 21155, 0, 1, 21693, 0, 1, 28872, 0, 1, 35010, 0, 1,
     35498, 0, 1, 24265, 0, 1, 24565, 0, 1, 25467, 0, 1, 27566, 0, 1, 31806, 0, 1, 29557, 0, 1,
     20196, 0, 1, 22265, 0, 1, 23527, 0, 1, 23994, 0, 1, 24604, 0, 1, 29618, 0, 1, 29801, 0, 1,
     32666, 0, 1, 32838, 0, 1, 37428, 0, 1, 38646, 0, 1, 38728, 0, 1, 38936, 0, 1, 20363, 0, 1,
     31150, 0, 1, 37300, 0, 1, 38584, 0, 1, 24801, 0, 1, 20102, 0, 1, 20698, 0, 1, 23534, 0, 1,
     23615, 0, 1, 26009, 0, 1, 27138, 0, 1, 29134, 0, 1, 30274, 0, 1, 34044, 0, 1, 36988, 0, 1,
     40845, 0, 1, 26248, 0, 1, 38446, 0, 1, 21129, 0, 1, 26491, 0, 1, 26611, 0, 1, 27969, 0, 1,
     28316, 0, 1, 29705, 0, 1, 30041, 0, 1, 30827, 0, 1, 32016, 0, 1, 39006, 0, 1, 20845, 0, 1,
     25134, 0, 1, 38520, 0, 1, 20523, 0, 1, 23833, 0, 1, 28138, 0, 1, 36650, 0, 1, 24459, 0, 1,
     24900, 0, 1, 26647, 0, 1, 29575, 0, 1, 38534, 0, 1, 21033, 0, 1, 21519, 0, 1, 23653, 0, 1,
     26131, 0, 1, 26446, 0, 1, 26792, 0, 1, 27877, 0, 1, 29702, 0, 1, 30178, 0, 1, 32633, 0, 1,
     35023, 0, 1, 35041, 0, 1, 37324, 0, 1, 38626, 0, 1, 21311, 0, 1, 28346, 0, 1, 21533, 0, 1,
     29136, 0, 1, 29848]),
   (63984, [0, 1, 34298, 0, 1, 38563, 0, 1, 40023, 0, 1, 40607, 0, 1, 26519, 0, 1, 28107, 0, 1,
     33256, 0, 1, 31435, 0, 1, 31520, 0, 1, 31890, 0, 1, 29376, 0, 1, 28825, 0, 1, 35672, 0, 1,
     20160, 0, 1, 33590, 0, 1, 21050, 0, 1, 20999, 0, 1, 24230, 0, 1, 25299, 0, 1, 31958, 0, 1,
     23429, 0, 1, 27934, 0, 1, 26292, 0, 1, 36667, 0, 1, 34892, 0, 1, 38477, 0, 1, 35211, 0, 1,
     24275, 0, 1, 20800, 0, 1, 21952, 2, 1, 22618, 1, 1, 26228, 2, 1, 20958, 0, 1, 29482, 0, 1,
     30410, 0, 1, 31036, 0, 1, 31070, 0, 1, 31077, 0, 1, 31119, 0, 1, 38742, 0, 1, 31934, 0, 1,
     32701, 1, 1, 34322, 1, 1, 35576, 2, 1, 36920, 0, 1, 37117, 3, 1, 39151, 0, 1, 39164, 0, 1,
     39208, 0, 1, 40372, 0, 1, 37086, 0, 1, 38583, 0, 1, 20398, 0, 1, 20711, 0, 1, 20813, 0, 1,
     21193, 0, 1, 21220, 0, 1, 21329, 0, 1, 21917, 0, 1, 22022, 0, 1, 22120, 0, 1, 22592, 0, 1,
     22696, 0, 1, 23652, 0, 1, 23662, 0, 1, 24724, 0, 1, 24936, 0, 1, 24974, 0, 1, 25074, 0, 1,
     25935, 0, 1, 26082, 0, 1, 26257, 0, 1, 26757, 0, 1, 28023, 0, 1, 28186, 0, 1, 28450, 0, 1,
     29038, 0, 1, 29227, 0, 1, 29730, 0, 1, 30865, 0, 1, 31038, 0, 1, 31049, 0, 1, 31048, 0, 1,
     31056, 0, 1, 31062, 0, 1, 31069, 0, 2, 31117, 0, 1, 31296, 0, 1, 31361, 0, 1, 31680, 0, 1,
     32244, 0, 1, 32265, 0, 1, 32321, 0, 1, 32626, 0, 1, 32773, 0, 1, 33261, 0, 1, 33401, 0, 1,
     33401, 0, 1, 33879, 0, 1, 35088, 0, 1, 35222, 0, 1, 35585, 0, 1, 35641, 0, 1, 36051, 0, 1,
     36104, 0, 1, 36790, 0, 1, 36920, 0, 1, 38627, 0, 1, 38911, 0, 1, 38971, 0, 1, 24693, 0, 1,
     148206, 0, 1, 33304, 2, 1, 20006, 0, 1, 20917, 0, 1, 20840, 0, 1, 20352, 0, 1, 20805, 0, 1,
     20864, 0, 1, 21191]),
   (64119, [0, 1, 21242, 0, 1, 21917, 0, 1, 21845, 0, 1, 21913, 0, 1, 21986, 0, 1, 22618, 0, 1,
     22707, 0, 1, 22852, 0, 1, 22868, 0, 1, 23138, 0, 1, 23336, 0, 1, 24274, 0, 1, 24281, 0, 1,
     24425, 0, 1, 24493, 0, 1, 24792, 0, 1, 24910, 0, 1, 24840, 0, 1, 24974, 0, 1, 24928, 0, 1,
     25074, 0, 1, 25140, 0, 1, 25540, 0, 1, 25628, 0, 1, 25682, 0, 1, 25942, 0, 1, 26228, 0, 1,
     26391, 0, 1, 26395, 0, 1, 26454, 0, 1, 27513, 0, 1, 27578, 0, 1, 27969, 0, 1, 28379, 0, 1,
     28363, 0, 1, 28450, 0, 1, 28702, 0, 1, 29038, 0, 1, 30631, 0, 1, 29237, 0, 1, 29359, 0, 1,
     29482, 0, 1, 29809, 0, 1, 29958, 0, 1, 30011, 0, 1, 30237, 0, 1, 30239, 0, 1, 30410, 0, 1,
     30427, 0, 1, 30452, 0, 1, 30538, 0, 1, 30528, 0, 1, 30924, 0, 1, 31409, 0, 1, 31680, 0, 1,
     31867, 0, 1, 32091, 0, 1, 32244, 0, 1, 32574, 0, 1, 32773, 0, 1, 33618, 0, 1, 33775, 0, 1,
     34681, 0, 1, 35137, 0, 1, 35206, 0, 1, 35222, 0, 1, 35519, 0, 1, 35576, 0, 1, 35531, 0, 1,
     35585, 0, 1, 35582, 0, 1, 35565, 0, 1, 35641, 0, 1, 35722, 0, 1, 36104, 0, 1, 36664, 0, 1,
     36978, 0, 1, 37273, 0, 1, 37494, 0, 1, 38524, 0, 1, 38627, 0, 1, 38742, 0, 1, 38875, 0, 1,
     38911, 0, 1, 38923, 0, 1, 38971, 0, 1, 39698, 0, 1, 40860, 0, 1, 141386, 0, 1, 141380, 0, 1,
     144341, 0, 1, 15261, 0, 1, 16408, 0, 1, 16441, 0, 1, 152137, 0, 1, 154832, 0, 1, 163539, 0, 1,
     40771, 0, 1, 40846]),
   (194560, [0, 1, 20029, 0, 1, 20024, 0, 1, 20033, 0, 1, 131362, 0, 1, 20320, 0, 1, 20398, 0, 1,
     20411, 0, 1, 20482, 0, 1, 20602, 0, 1, 20633, 0, 1, 20711, 0, 1, 20687, 0, 1, 13470, 0, 1,
     132666, 0, 1, 20813, 0, 1, 20820, 0, 1, 20836, 0, 1, 20855, 0, 1, 132380, 0, 1, 13497, 0, 1,
     20839, 0, 1, 20877, 0, 1, 132427, 0, 1, 20887, 0, 1, 20900, 0, 1, 20172, 0, 1, 20908, 0, 1,
     20917, 0, 1, 168415, 0, 1, 20981, 0, 1, 20995, 0, 1, 13535, 0, 1, 21051, 0, 1, 21062, 0, 1,
     21106, 0, 1, 21111, 0, 1, 13589, 0, 1, 21191, 0, 1, 21193, 0, 1, 21220, 0, 1, 21242, 0, 2,
     21253, 0, 1, 21271, 0, 1, 21321, 0, 1, 21329, 0, 1, 21338, 0, 1, 21363, 0, 1, 21373, 0, 1,
     21375, 0, 1, 21375, 0, 1, 21375, 0, 1, 133676, 0, 1, 28784, 0, 1, 21450, 0, 1, 21471, 0, 1,
     133987, 0, 1, 21483, 0, 1, 21489, 0, 1, 21510, 0, 1, 21662, 0, 1, 21560, 0, 1, 21576, 0, 1,
     21608, 0, 1, 21666, 0, 1, 21750, 0, 1, 21776, 0, 1, 21843, 0, 1, 21859, 0, 1, 21892, 0, 1,
     21892, 0, 1, 21913, 0, 1, 21931, 0, 1, 21939, 0, 1, 21954, 0, 1, 22294, 0, 1, 22022, 0, 1,
     22295, 0, 1, 22097, 0, 1, 22132, 0, 1, 20999, 0, 1, 22766, 0, 1, 22478, 0, 1, 22516, 0, 1,
     22541, 0, 1, 22411, 0, 1, 22578, 0, 1, 22577, 0, 1, 22700, 0, 1, 136420, 0, 1, 22770, 0, 1,
     22775, 0, 1, 22790, 0, 1, 22810, 0, 1, 22818, 0, 1, 22882, 0, 1, 136872, 0, 1, 136938, 0, 1,
     23020, 0, 1, 23067, 0, 1, 23079, 0, 1, 23000, 0, 1, 23142, 0, 1, 14062, 0, 1, 14076, 0, 1,
     23304, 0, 1, 23358, 0, 1, 23358, 0, 1, 137672, 0, 1, 23491, 0, 1, 23512, 0, 1, 23527, 0, 1,
     23539, 0, 1, 138008, 0, 1, 23551, 0, 1, 23558, 0, 1, 24403, 0, 1, 23586, 0, 1, 14209, 0, 1,
     23648, 0, 1, 23662]),
   (194681, [0, 1, 23744, 0, 1, 23693, 0, 1, 138724, 0, 1, 23875, 0, 1, 138726, 0, 1, 23918, 0, 1,
     23915, 0, 1, 23932, 0, 2, 24033, 0, 1, 14383, 0, 1, 24061, 0, 1, 24104, 0, 1, 24125, 0, 1,
     24169, 0, 1, 14434, 0, 1, 139651, 0, 1, 14460, 0, 1, 24240, 0, 1, 24243, 0, 1, 24246, 0, 1,
     24266, 0, 1, 172946, 0, 1, 24318, 0, 1, 140081, 0, 1, 140081, 0, 1, 33281, 0, 1, 24354, 0, 1,
     24354, 0, 1, 14535, 0, 1, 144056, 0, 1, 156122, 0, 1, 24418, 0, 1, 24427, 0, 1, 14563, 0, 1,
     24474, 0, 1, 24525, 0, 1, 24535, 0, 1, 24569, 0, 1, 24705, 0, 1, 14650, 0, 1, 14620, 0, 1,
     24724, 0, 1, 141012, 0, 1, 24775, 0, 1, 24904, 0, 1, 24908, 0, 1, 24910, 0, 1, 24908, 0, 1,
     24954, 0, 1, 24974, 0, 1, 25010, 0, 1, 24996, 0, 1, 25007, 0, 1, 25054, 0, 1, 25074, 0, 1,
     25078, 0, 1, 25104, 0, 1, 25115, 0, 1, 25181, 0, 1, 25265, 0, 1, 25300, 0, 1, 25424, 0, 1,
     142092, 0, 1, 25405, 0, 1, 25340, 0, 1, 25448, 0, 1, 25475, 0, 1, 25572, 0, 1, 142321, 0, 1,
     25634, 0, 1, 25541, 0, 1, 25513, 0, 1, 14894, 0, 1, 25705, 0, 1, 25726, 0, 1, 25757, 0, 1,
     25719, 0, 1, 14956, 0, 1, 25935, 0, 1, 25964, 0, 1, 143370, 0, 1, 26083, 0, 1, 26360, 0, 1,
     26185, 0, 1, 15129, 0, 1, 26257, 0, 1, 15112, 0, 1, 15076, 0, 1, 20882, 0, 1, 20885, 0, 1,
     26368, 0, 1, 26268, 0, 1, 32941, 0, 1, 17369, 0, 1, 26391, 0, 1, 26395, 0, 1, 26401, 0, 1,
     26462, 0, 1, 26451, 0, 1, 144323, 0, 1, 15177, 0, 1, 26618, 0, 1, 26501, 0, 1, 26706, 0, 1,
     26757, 0, 1, 144493, 0, 1, 26766, 0, 1, 26655, 0, 1, 26900, 0, 1, 15261, 0, 1, 26946, 0, 1,
     27043, 0, 1, 27114, 0, 1, 27304, 0, 1, 145059, 0, 1, 27355, 0, 1, 15384, 0, 1, 27425, 0, 1,
     145575, 0, 1, 27476]),
   (194802, [0, 1, 15438, 0, 1, 27506, 0, 1, 27551, 0, 2, 27578, 0, 1, 146061, 0, 1, 138507, 0, 1,
     146170, 0, 1, 27726, 0, 1, 146620, 0, 1, 27839, 0, 1, 27853, 0, 1, 27751, 0, 1, 27926, 0, 1,
     27966, 0, 1, 28023, 0, 1, 27969, 0, 1, 28009, 0, 1, 28024, 0, 1, 28037, 0, 1, 146718, 0, 1,
     27956, 0, 1, 28207, 0, 1, 28270, 0, 1, 15667, 0, 1, 28363, 0, 1, 28359, 0, 1, 147153, 0, 1,
     28153, 0, 1, 28526, 0, 1, 147294, 0, 1, 147342, 0, 1, 28614, 0, 1, 28729, 0, 1, 28702, 0, 1,
     28699, 0, 1, 15766, 0, 1, 28746, 0, 1, 28797, 0, 1, 28791, 0, 1, 28845, 0, 1, 132389, 0, 1,
     28997, 0, 1, 148067, 0, 1, 29084, 0, 1, 148395, 0, 1, 29224, 0, 1, 29237, 0, 1, 29264, 0, 1,
     149000, 0, 1, 29312, 0, 1, 29333, 0, 1, 149301, 0, 1, 149524, 0, 1, 29562, 0, 1, 29579, 0, 1,
     16044, 0, 1, 29605, 0, 1, 16056, 0, 1, 16056, 0, 1, 29767, 0, 1, 29788, 0, 1, 29809, 0, 1,
     29829, 0, 1, 29898, 0, 1, 16155, 0, 1, 29988, 0, 1, 150582, 0, 1, 30014, 0, 1, 150674, 0, 1,
     30064, 0, 1, 139679, 0, 1, 30224, 0, 1, 151457, 0, 1, 151480, 0, 1, 151620, 0, 1, 16380, 0, 1,
     16392, 0, 1, 30452, 0, 1, 151795, 0, 1, 151794, 0, 1, 151833, 0, 1, 151859, 0, 2, 30494, 0, 1,
     30495, 0, 1, 30538, 0, 1, 16441, 0, 1, 30603, 0, 1, 16454, 0, 1, 16534, 0, 1, 152605, 0, 1,
     30798, 0, 1, 30860, 0, 1, 30924, 0, 1, 16611, 0, 1, 153126, 0, 1, 31062, 0, 1, 153242, 0, 1,
     153285, 0, 1, 31119, 0, 1, 31211, 0, 1, 16687, 0, 1, 31296, 0, 1, 31306, 0, 1, 31311, 0, 1,
     153980, 0, 1, 154279, 0, 1, 154279, 0, 1, 31470, 0, 1, 16898, 0, 1, 154539, 0, 1, 31686, 0, 1,
     31689, 0, 1, 16935, 0, 1, 154752, 0, 1, 31954, 0, 1, 17056, 0, 1, 31976, 0, 1, 31971, 0, 1,
     32000, 0, 1, 155526]),
   (194924, [0, 1, 32099, 0, 1, 17153, 0, 1, 32199, 0, 1, 32258, 0, 1, 32325, 0, 1, 17204, 0, 1,
     156200, 0, 1, 156231, 0, 1, 17241, 0, 1, 156377, 0, 1, 32634, 0, 1, 156478, 0, 1, 32661, 0, 1,
     32762, 0, 1, 32773, 0, 1, 156890, 0, 1, 156963, 0, 1, 32864, 0, 1, 157096, 0, 1, 32880, 0, 1,
     144223, 0, 1, 17365, 0, 1, 32946, 0, 1, 33027, 0, 1, 17419, 0, 1, 33086, 0, 1, 23221, 0, 1,
     157607, 0, 1, 157621, 0, 1, 144275, 0, 1, 144284, 0, 1, 33281, 0, 1, 33284, 0, 1, 36766, 0, 1,
     17515, 0, 1, 33425, 0, 1, 33419, 0, 1, 33437, 0, 1, 21171, 0, 1, 33457, 0, 1, 33459, 0, 1,
     33469, 0, 1, 33510, 0, 1, 158524, 0, 1, 33509, 0, 1, 33565, 0, 1, 33635, 0, 1, 33709, 0, 1,
     33571, 0, 1, 33725, 0, 1, 33767, 0, 1, 33879, 0, 1, 33619, 0, 1, 33738, 0, 1, 33740, 0, 1,
     33756, 0, 1, 158774, 0, 1, 159083, 0, 1, 158933, 0, 1, 17707, 0, 1, 34033, 0, 1, 34035, 0, 1,
     34070, 0, 1, 160714, 0, 1, 34148, 0, 1, 159532, 0, 1, 17757, 0, 1, 17761, 0, 1, 159665, 0, 1,
     159954, 0, 1, 17771, 0, 1, 34384, 0, 1, 34396, 0, 1, 34407, 0, 1, 34409, 0, 1, 34473, 0, 1,
     34440, 0, 1, 34574, 0, 1, 34530, 0, 1, 34681, 0, 1, 34600, 0, 1, 34667, 0, 1, 34694, 0, 1,
     17879, 0, 1, 34785, 0, 1, 34817, 0, 1, 17913, 0, 1, 34912, 0, 1, 34915, 0, 1, 161383, 0, 1,
     35031, 0, 1, 35038, 0, 1, 17973, 0, 1, 35066, 0, 1, 13499, 0, 1, 161966, 0, 1, 162150, 0, 1,
     18110, 0, 1, 18119, 0, 1, 35488, 0, 1, 35565, 0, 1, 35722, 0, 1, 35925, 0, 1, 162984, 0, 1,
     36011, 0, 1, 36033, 0, 1, 36123, 0, 1, 36215, 0, 1, 163631, 0, 1, 133124, 0, 1, 36299, 0, 1,
     36284, 0, 1, 36336, 0, 1, 133342, 0, 1, 36564, 0, 1, 36664, 0, 1, 165330, 0, 1, 165357, 0, 1,
     37012, 0, 1, 37105]),
   (195044, [0, 1, 37137, 0, 1, 165678, 0, 1, 37147, 0, 1, 37432, 0, 2, 37591, 0, 1, 37500, 0, 1,
     37881, 0, 1, 37909, 0, 1, 166906, 0, 1, 38283, 0, 1, 18837, 0, 1, 38327, 0, 1, 167287, 0, 1,
     18918, 0, 1, 38595, 0, 1, 23986, 0, 1, 38691, 0, 1, 168261, 0, 1, 168474, 0, 1, 19054, 0, 1,
     19062, 0, 1, 38880, 0, 1, 168970, 0, 1, 19122, 0, 1, 169110, 0, 1, 38923, 0, 1, 38923, 0, 1,
     38953, 0, 1, 169398, 0, 1, 39138, 0, 1, 19251, 0, 1, 39209, 0, 1, 39335, 0, 1, 39362, 0, 1,
     39422, 0, 1, 19406, 0, 1, 170800, 0, 1, 39698, 0, 1, 40000, 0, 1, 40189, 0, 1, 19662, 0, 1,
     19693, 0, 1, 40295, 0, 1, 172238, 0, 1, 19704, 0, 1, 172293, 0, 1, 172558, 0, 1, 172689, 0, 1,
     40635, 0, 1, 19798, 0, 1, 40697, 0, 1, 40702, 0, 1, 40709, 0, 1, 40719, 0, 1, 40726, 0, 1,
     40763, 0, 1, 173568])]

/-- Characters from the given one on, and what they stand for where that is more than one character.
-/
def sequences : List (Nat × List (List Nat)) :=
  [(306, [[306, 73, 74], [307, 105, 106], [319, 76, 183], [320, 108, 183], [329, 700, 110],
     [452, 68, 90, 780], [453, 68, 122, 780], [454, 100, 122, 780], [455, 76, 74], [456, 76, 106],
     [457, 108, 106], [458, 78, 74], [459, 78, 106], [460, 110, 106], [497, 68, 90], [498, 68, 122],
     [499, 100, 122]]),
   (836, [[836, 776, 769], [1415, 1381, 1410], [1653, 1575, 1652], [1654, 1608, 1652],
     [1655, 1735, 1652], [1656, 1610, 1652], [2392, 2325, 2364], [2393, 2326, 2364],
     [2394, 2327, 2364], [2395, 2332, 2364], [2396, 2337, 2364], [2397, 2338, 2364],
     [2398, 2347, 2364], [2399, 2351, 2364], [2524, 2465, 2492], [2525, 2466, 2492],
     [2527, 2479, 2492], [2611, 2610, 2620], [2614, 2616, 2620], [2649, 2582, 2620],
     [2650, 2583, 2620], [2651, 2588, 2620], [2654, 2603, 2620], [2908, 2849, 2876],
     [2909, 2850, 2876], [3635, 3661, 3634], [3763, 3789, 3762], [3804, 3755, 3737],
     [3805, 3755, 3745], [3907, 3906, 4023], [3917, 3916, 4023], [3922, 3921, 4023],
     [3927, 3926, 4023], [3932, 3931, 4023], [3945, 3904, 4021], [3955, 3953, 3954],
     [3957, 3953, 3956], [3958, 4018, 3968], [3959, 4018, 3953, 3968], [3960, 4019, 3968],
     [3961, 4019, 3953, 3968], [3969, 3953, 3968], [3987, 3986, 4023], [3997, 3996, 4023],
     [4002, 4001, 4023], [4007, 4006, 4023], [4012, 4011, 4023], [4025, 3984, 4021]]),
   (7834, [[7834, 97, 702], [8049, 945, 769], [8051, 949, 769], [8053, 951, 769], [8055, 953, 769],
     [8057, 959, 769], [8059, 965, 769], [8061, 969, 769], [8123, 913, 769], [8137, 917, 769],
     [8139, 919, 769], [8147, 953, 776, 769], [8155, 921, 769], [8163, 965, 776, 769],
     [8171, 933, 769], [8185, 927, 769], [8187, 937, 769], [8491, 65, 778], [8545, 73, 73],
     [8546, 73, 73, 73], [8547, 73, 86], [8549, 86, 73], [8550, 86, 73, 73], [8551, 86, 73, 73, 73],
     [8552, 73, 88], [8554, 88, 73], [8555, 88, 73, 73], [8561, 105, 105], [8562, 105, 105, 105],
     [8563, 105, 118], [8565, 118, 105], [8566, 118, 105, 105], [8567, 118, 105, 105, 105],
     [8568, 105, 120], [8570, 120, 105], [8571, 120, 105, 105], [12447, 12424, 12426],
     [12543, 12467, 12488], [64256, 102, 102], [64257, 102, 105], [64258, 102, 108],
     [64259, 102, 102, 105], [64260, 102, 102, 108], [64261, 115, 116], [64262, 115, 116],
     [64275, 1396, 1398], [64276, 1396, 1381], [64277, 1396, 1387], [64278, 1406, 1398],
     [64279, 1396, 1389], [64285, 1497, 1460], [64287, 1522, 1463], [64298, 1513, 1473],
     [64299, 1513, 1474], [64300, 1513, 1468, 1473], [64301, 1513, 1468, 1474], [64302, 1488, 1463],
     [64303, 1488, 1464], [64304, 1488, 1468], [64305, 1489, 1468], [64306, 1490, 1468],
     [64307, 1491, 1468], [64308, 1492, 1468], [64309, 1493, 1468], [64310, 1494, 1468],
     [64312, 1496, 1468], [64313, 1497, 1468], [64314, 1498, 1468], [64315, 1499, 1468],
     [64316, 1500, 1468], [64318, 1502, 1468], [64320, 1504, 1468], [64321, 1505, 1468],
     [64323, 1507, 1468], [64324, 1508, 1468], [64326, 1510, 1468], [64327, 1511, 1468],
     [64328, 1512, 1468], [64329, 1513, 1468], [64330, 1514, 1468], [64331, 1493, 1465],
     [64332, 1489, 1471], [64333, 1499, 1471], [64334, 1508, 1471], [64335, 1488, 1500]]),
   (64420, [[64420, 1749, 1620], [64421, 1749, 1620], [64432, 1746, 1620], [64433, 1746, 1620],
     [64477, 1735, 1652], [64490, 1610, 1620, 1575], [64491, 1610, 1620, 1575],
     [64492, 1610, 1620, 1749], [64493, 1610, 1620, 1749], [64494, 1610, 1620, 1608],
     [64495, 1610, 1620, 1608], [64496, 1610, 1620, 1735], [64497, 1610, 1620, 1735],
     [64498, 1610, 1620, 1734], [64499, 1610, 1620, 1734], [64500, 1610, 1620, 1736],
     [64501, 1610, 1620, 1736], [64502, 1610, 1620, 1744], [64503, 1610, 1620, 1744],
     [64504, 1610, 1620, 1744], [64505, 1610, 1620, 1609], [64506, 1610, 1620, 1609],
     [64507, 1610, 1620, 1609]]),
   (64512, [[64512, 1610, 1620, 1580], [64513, 1610, 1620, 1581], [64514, 1610, 1620, 1605],
     [64515, 1610, 1620, 1609], [64516, 1610, 1620, 1610], [64517, 1576, 1580], [64518, 1576, 1581],
     [64519, 1576, 1582], [64520, 1576, 1605], [64521, 1576, 1609], [64522, 1576, 1610],
     [64523, 1578, 1580], [64524, 1578, 1581], [64525, 1578, 1582], [64526, 1578, 1605],
     [64527, 1578, 1609], [64528, 1578, 1610], [64529, 1579, 1580], [64530, 1579, 1605],
     [64531, 1579, 1609], [64532, 1579, 1610], [64533, 1580, 1581], [64534, 1580, 1605],
     [64535, 1581, 1580], [64536, 1581, 1605], [64537, 1582, 1580], [64538, 1582, 1581],
     [64539, 1582, 1605], [64540, 1587, 1580], [64541, 1587, 1581], [64542, 1587, 1582],
     [64543, 1587, 1605], [64544, 1589, 1581], [64545, 1589, 1605], [64546, 1590, 1580],
     [64547, 1590, 1581], [64548, 1590, 1582], [64549, 1590, 1605], [64550, 1591, 1581],
     [64551, 1591, 1605], [64552, 1592, 1605], [64553, 1593, 1580], [64554, 1593, 1605],
     [64555, 1594, 1580], [64556, 1594, 1605], [64557, 1601, 1580], [64558, 1601, 1581],
     [64559, 1601, 1582], [64560, 1601, 1605], [64561, 1601, 1609], [64562, 1601, 1610],
     [64563, 1602, 1581], [64564, 1602, 1605], [64565, 1602, 1609], [64566, 1602, 1610],
     [64567, 1603, 1575], [64568, 1603, 1580], [64569, 1603, 1581], [64570, 1603, 1582],
     [64571, 1603, 1604], [64572, 1603, 1605], [64573, 1603, 1609], [64574, 1603, 1610],
     [64575, 1604, 1580], [64576, 1604, 1581], [64577, 1604, 1582], [64578, 1604, 1605],
     [64579, 1604, 1609], [64580, 1604, 1610], [64581, 1605, 1580], [64582, 1605, 1581],
     [64583, 1605, 1582], [64584, 1605, 1605], [64585, 1605, 1609], [64586, 1605, 1610],
     [64587, 1606, 1580], [64588, 1606, 1581], [64589, 1606, 1582], [64590, 1606, 1605],
     [64591, 1606, 1609], [64592, 1606, 1610], [64593, 1607, 1580], [64594, 1607, 1605],
     [64595, 1607, 1609], [64596, 1607, 1610], [64597, 1610, 1580], [64598, 1610, 1581],
     [64599, 1610, 1582], [64600, 1610, 1605], [64601, 1610, 1609], [64602, 1610, 1610],
     [64603, 1584, 1648], [64604, 1585, 1648], [64605, 1609, 1648], [64612, 1610, 1620, 1585],
     [64613, 1610, 1620, 1586], [64614, 1610, 1620, 1605], [64615, 1610, 1620, 1606],
     [64616, 1610, 1620, 1609], [64617, 1610, 1620, 1610], [64618, 1576, 1585], [64619, 1576, 1586],
     [64620, 1576, 1605], [64621, 1576, 1606], [64622, 1576, 1609], [64623, 1576, 1610],
     [64624, 1578, 1585], [64625, 1578, 1586], [64626, 1578, 1605], [64627, 1578, 1606],
     [64628, 1578, 1609], [64629, 1578, 1610], [64630, 1579, 1585], [64631, 1579, 1586],
     [64632, 1579, 1605], [64633, 1579, 1606], [64634, 1579, 1609], [64635, 1579, 1610],
     [64636, 1601, 1609], [64637, 1601, 1610], [64638, 1602, 1609], [64639, 1602, 1610]]),
   (64640, [[64640, 1603, 1575], [64641, 1603, 1604], [64642, 1603, 1605], [64643, 1603, 1609],
     [64644, 1603, 1610], [64645, 1604, 1605], [64646, 1604, 1609], [64647, 1604, 1610],
     [64648, 1605, 1575], [64649, 1605, 1605], [64650, 1606, 1585], [64651, 1606, 1586],
     [64652, 1606, 1605], [64653, 1606, 1606], [64654, 1606, 1609], [64655, 1606, 1610],
     [64656, 1609, 1648], [64657, 1610, 1585], [64658, 1610, 1586], [64659, 1610, 1605],
     [64660, 1610, 1606], [64661, 1610, 1609], [64662, 1610, 1610], [64663, 1610, 1620, 1580],
     [64664, 1610, 1620, 1581], [64665, 1610, 1620, 1582], [64666, 1610, 1620, 1605],
     [64667, 1610, 1620, 1607], [64668, 1576, 1580], [64669, 1576, 1581], [64670, 1576, 1582],
     [64671, 1576, 1605], [64672, 1576, 1607], [64673, 1578, 1580], [64674, 1578, 1581],
     [64675, 1578, 1582], [64676, 1578, 1605], [64677, 1578, 1607], [64678, 1579, 1605],
     [64679, 1580, 1581], [64680, 1580, 1605], [64681, 1581, 1580], [64682, 1581, 1605],
     [64683, 1582, 1580], [64684, 1582, 1605], [64685, 1587, 1580], [64686, 1587, 1581],
     [64687, 1587, 1582], [64688, 1587, 1605], [64689, 1589, 1581], [64690, 1589, 1582],
     [64691, 1589, 1605], [64692, 1590, 1580], [64693, 1590, 1581], [64694, 1590, 1582],
     [64695, 1590, 1605], [64696, 1591, 1581], [64697, 1592, 1605], [64698, 1593, 1580],
     [64699, 1593, 1605], [64700, 1594, 1580], [64701, 1594, 1605], [64702, 1601, 1580],
     [64703, 1601, 1581], [64704, 1601, 1582], [64705, 1601, 1605], [64706, 1602, 1581],
     [64707, 1602, 1605], [64708, 1603, 1580], [64709, 1603, 1581], [64710, 1603, 1582],
     [64711, 1603, 1604], [64712, 1603, 1605], [64713, 1604, 1580], [64714, 1604, 1581],
     [64715, 1604, 1582], [64716, 1604, 1605], [64717, 1604, 1607], [64718, 1605, 1580],
     [64719, 1605, 1581], [64720, 1605, 1582], [64721, 1605, 1605], [64722, 1606, 1580],
     [64723, 1606, 1581], [64724, 1606, 1582], [64725, 1606, 1605], [64726, 1606, 1607],
     [64727, 1607, 1580], [64728, 1607, 1605], [64729, 1607, 1648], [64730, 1610, 1580],
     [64731, 1610, 1581], [64732, 1610, 1582], [64733, 1610, 1605], [64734, 1610, 1607],
     [64735, 1610, 1620, 1605], [64736, 1610, 1620, 1607], [64737, 1576, 1605], [64738, 1576, 1607],
     [64739, 1578, 1605], [64740, 1578, 1607], [64741, 1579, 1605], [64742, 1579, 1607],
     [64743, 1587, 1605], [64744, 1587, 1607], [64745, 1588, 1605], [64746, 1588, 1607],
     [64747, 1603, 1604], [64748, 1603, 1605], [64749, 1604, 1605], [64750, 1606, 1605],
     [64751, 1606, 1607], [64752, 1610, 1605], [64753, 1610, 1607], [64754, 1600, 1614, 1617],
     [64755, 1600, 1615, 1617], [64756, 1600, 1616, 1617], [64757, 1591, 1609], [64758, 1591, 1610],
     [64759, 1593, 1609], [64760, 1593, 1610], [64761, 1594, 1609], [64762, 1594, 1610],
     [64763, 1587, 1609], [64764, 1587, 1610], [64765, 1588, 1609], [64766, 1588, 1610],
     [64767, 1581, 1609]]),
   (64768, [[64768, 1581, 1610], [64769, 1580, 1609], [64770, 1580, 1610], [64771, 1582, 1609],
     [64772, 1582, 1610], [64773, 1589, 1609], [64774, 1589, 1610], [64775, 1590, 1609],
     [64776, 1590, 1610], [64777, 1588, 1580], [64778, 1588, 1581], [64779, 1588, 1582],
     [64780, 1588, 1605], [64781, 1588, 1585], [64782, 1587, 1585], [64783, 1589, 1585],
     [64784, 1590, 1585], [64785, 1591, 1609], [64786, 1591, 1610], [64787, 1593, 1609],
     [64788, 1593, 1610], [64789, 1594, 1609], [64790, 1594, 1610], [64791, 1587, 1609],
     [64792, 1587, 1610], [64793, 1588, 1609], [64794, 1588, 1610], [64795, 1581, 1609],
     [64796, 1581, 1610], [64797, 1580, 1609], [64798, 1580, 1610], [64799, 1582, 1609],
     [64800, 1582, 1610], [64801, 1589, 1609], [64802, 1589, 1610], [64803, 1590, 1609],
     [64804, 1590, 1610], [64805, 1588, 1580], [64806, 1588, 1581], [64807, 1588, 1582],
     [64808, 1588, 1605], [64809, 1588, 1585], [64810, 1587, 1585], [64811, 1589, 1585],
     [64812, 1590, 1585], [64813, 1588, 1580], [64814, 1588, 1581], [64815, 1588, 1582],
     [64816, 1588, 1605], [64817, 1587, 1607], [64818, 1588, 1607], [64819, 1591, 1605],
     [64820, 1587, 1580], [64821, 1587, 1581], [64822, 1587, 1582], [64823, 1588, 1580],
     [64824, 1588, 1581], [64825, 1588, 1582], [64826, 1591, 1605], [64827, 1592, 1605],
     [64828, 1575, 1611], [64829, 1575, 1611], [64848, 1578, 1580, 1605], [64849, 1578, 1581, 1580],
     [64850, 1578, 1581, 1580], [64851, 1578, 1581, 1605], [64852, 1578, 1582, 1605],
     [64853, 1578, 1605, 1580], [64854, 1578, 1605, 1581], [64855, 1578, 1605, 1582],
     [64856, 1580, 1605, 1581], [64857, 1580, 1605, 1581], [64858, 1581, 1605, 1610],
     [64859, 1581, 1605, 1609], [64860, 1587, 1581, 1580], [64861, 1587, 1580, 1581],
     [64862, 1587, 1580, 1609], [64863, 1587, 1605, 1581], [64864, 1587, 1605, 1581],
     [64865, 1587, 1605, 1580], [64866, 1587, 1605, 1605], [64867, 1587, 1605, 1605],
     [64868, 1589, 1581, 1581], [64869, 1589, 1581, 1581], [64870, 1589, 1605, 1605],
     [64871, 1588, 1581, 1605], [64872, 1588, 1581, 1605], [64873, 1588, 1580, 1610],
     [64874, 1588, 1605, 1582], [64875, 1588, 1605, 1582], [64876, 1588, 1605, 1605],
     [64877, 1588, 1605, 1605], [64878, 1590, 1581, 1609], [64879, 1590, 1582, 1605],
     [64880, 1590, 1582, 1605], [64881, 1591, 1605, 1581], [64882, 1591, 1605, 1581],
     [64883, 1591, 1605, 1605], [64884, 1591, 1605, 1610], [64885, 1593, 1580, 1605],
     [64886, 1593, 1605, 1605], [64887, 1593, 1605, 1605], [64888, 1593, 1605, 1609],
     [64889, 1594, 1605, 1605], [64890, 1594, 1605, 1610], [64891, 1594, 1605, 1609],
     [64892, 1601, 1582, 1605], [64893, 1601, 1582, 1605], [64894, 1602, 1605, 1581],
     [64895, 1602, 1605, 1605]]),
   (64896, [[64896, 1604, 1581, 1605], [64897, 1604, 1581, 1610], [64898, 1604, 1581, 1609],
     [64899, 1604, 1580, 1580], [64900, 1604, 1580, 1580], [64901, 1604, 1582, 1605],
     [64902, 1604, 1582, 1605], [64903, 1604, 1605, 1581], [64904, 1604, 1605, 1581],
     [64905, 1605, 1581, 1580], [64906, 1605, 1581, 1605], [64907, 1605, 1581, 1610],
     [64908, 1605, 1580, 1581], [64909, 1605, 1580, 1605], [64910, 1605, 1582, 1580],
     [64911, 1605, 1582, 1605], [64914, 1605, 1580, 1582], [64915, 1607, 1605, 1580],
     [64916, 1607, 1605, 1605], [64917, 1606, 1581, 1605], [64918, 1606, 1581, 1609],
     [64919, 1606, 1580, 1605], [64920, 1606, 1580, 1605], [64921, 1606, 1580, 1609],
     [64922, 1606, 1605, 1610], [64923, 1606, 1605, 1609], [64924, 1610, 1605, 1605],
     [64925, 1610, 1605, 1605], [64926, 1576, 1582, 1610], [64927, 1578, 1580, 1610],
     [64928, 1578, 1580, 1609], [64929, 1578, 1582, 1610], [64930, 1578, 1582, 1609],
     [64931, 1578, 1605, 1610], [64932, 1578, 1605, 1609], [64933, 1580, 1605, 1610],
     [64934, 1580, 1581, 1609], [64935, 1580, 1605, 1609], [64936, 1587, 1582, 1609],
     [64937, 1589, 1581, 1610], [64938, 1588, 1581, 1610], [64939, 1590, 1581, 1610],
     [64940, 1604, 1580, 1610], [64941, 1604, 1605, 1610], [64942, 1610, 1581, 1610],
     [64943, 1610, 1580, 1610], [64944, 1610, 1605, 1610], [64945, 1605, 1605, 1610],
     [64946, 1602, 1605, 1610], [64947, 1606, 1581, 1610], [64948, 1602, 1605, 1581],
     [64949, 1604, 1581, 1605], [64950, 1593, 1605, 1610], [64951, 1603, 1605, 1610],
     [64952, 1606, 1580, 1581], [64953, 1605, 1582, 1610], [64954, 1604, 1580, 1605],
     [64955, 1603, 1605, 1605], [64956, 1604, 1580, 1605], [64957, 1606, 1580, 1581],
     [64958, 1580, 1581, 1610], [64959, 1581, 1580, 1610], [64960, 1605, 1580, 1610],
     [64961, 1601, 1605, 1610], [64962, 1576, 1581, 1610], [64963, 1603, 1605, 1605],
     [64964, 1593, 1580, 1605], [64965, 1589, 1605, 1605], [64966, 1587, 1582, 1610],
     [64967, 1606, 1580, 1610], [65008, 1589, 1604, 1746], [65009, 1602, 1604, 1746],
     [65010, 1575, 1604, 1604, 1607], [65011, 1575, 1603, 1576, 1585],
     [65012, 1605, 1581, 1605, 1583], [65013, 1589, 1604, 1593, 1605],
     [65014, 1585, 1587, 1608, 1604], [65015, 1593, 1604, 1610, 1607],
     [65016, 1608, 1587, 1604, 1605], [65017, 1589, 1604, 1609]]),
   (65137, [[65137, 1600, 1611], [65143, 1600, 1614], [65145, 1600, 1615], [65147, 1600, 1616],
     [65149, 1600, 1617], [65151, 1600, 1618], [65153, 1575, 1619], [65154, 1575, 1619],
     [65155, 1575, 1620], [65156, 1575, 1620], [65157, 1608, 1620], [65158, 1608, 1620],
     [65159, 1575, 1621], [65160, 1575, 1621], [65161, 1610, 1620], [65162, 1610, 1620],
     [65163, 1610, 1620], [65164, 1610, 1620], [65269, 1604, 1575, 1619], [65270, 1604, 1575, 1619],
     [65271, 1604, 1575, 1620], [65272, 1604, 1575, 1620], [65273, 1604, 1575, 1621],
     [65274, 1604, 1575, 1621], [65275, 1604, 1575], [65276, 1604, 1575]])]

/-! ## Lookup -/

/-- The block that a character is in: the last one that does not start behind it. -/
def block? {α : Type} (code : Nat) (blocks : List (Nat × α)) : Option (Nat × α) :=
  (blocks.takeWhile (·.1 ≤ code)).getLast?

/-- What is noted for the run that a character is in, and how far behind the start of that run it
is. -/
def runAt? (code : Nat) : Nat → List Nat → Option (Nat × Nat)
  | start, gap :: length :: value :: rest =>
    let first := start + gap
    if code < first then none
    else if code < first + length then some (value, code - first)
    else runAt? code (first + length) rest
  | _, _ => none

/-- The class of a mark. Letters and digits have none. -/
def combiningClass (c : Char) : Nat :=
  if c.toNat < 768 then 0 else ((runAt? c.toNat 0 classRuns).map (·.1)).getD 0

/-- The entries of a list that alternates between letters and what they become. -/
def pairs : List Nat → List (Nat × Nat)
  | letter :: whole :: rest => (letter, whole) :: pairs rest
  | _ => []

/-- The letter and the mark that a code stands for. -/
def markedLetter? (code : Nat) : Option (List Nat) :=
  compositions.findSome? fun (mark, wholes) =>
    ((pairs wholes).find? (·.2 == code)).map fun (letter, _) => [letter, mark]

/-- The parts of a syllable of the Korean script: two letters, or three. -/
def syllableParts? (code : Nat) : Option (List Nat) :=
  if 44032 ≤ code && code < 55204 then
    let i := code - 44032
    let open_ := [4352 + i / 588, 4449 + i % 588 / 28]
    some (if i % 28 == 0 then open_ else open_ ++ [4519 + i % 28])
  else none

/-- The syllable of the Korean script that two parts make: two letters, or a syllable that is open
and a letter. -/
def syllable? (first second : Nat) : Option Nat :=
  if 4352 ≤ first && first < 4371 && 4449 ≤ second && second < 4470 then
    some (44032 + (first - 4352) * 588 + (second - 4449) * 28)
  else if 44032 ≤ first && first < 55204 && (first - 44032) % 28 == 0 &&
      4519 < second && second < 4547 then
    some (first + (second - 4519))
  else none

/-- The characters that a character stands for, which may stand for others themselves. -/
def standsFor? (c : Char) : Option (List Char) :=
  let code := c.toNat
  if code < 128 then none
  else
    let single (blocks : List (Nat × List Nat)) : Option (List Nat) := do
      let (start, runs) ← block? code blocks
      let (first, behind) ← runAt? code start runs
      some [first + behind]
    let sequence : Option (List Nat) := do
      let (_, rows) ← block? code sequences
      (rows.find? (·.head? == some code)).map (·.tail)
    (syllableParts? code <|> single singles <|> single ideographs <|> sequence <|> markedLetter? code).map
      (·.map Char.ofNat)

/-- The character that stands for a letter and a mark, or for two parts of a syllable. -/
def composed? (letter mark : Char) : Option Char :=
  if mark.toNat < 768 then none
  else
    let marked := (compositions.lookup mark.toNat).bind fun wholes => (pairs wholes).lookup letter.toNat
    (marked <|> syllable? letter.toNat mark.toNat).map Char.ofNat

end Text

end ServiceStubs
