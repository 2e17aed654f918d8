namespace RollupBridge.Domain

/-- Runs of characters: `.` for those that stay, `!` for those that may not stand in a name, and `-`
for those that are left out. `=` and characters with `+` between them replace each of a run. `>` and
a character replace the first of a run, and the characters behind it replace the others. In a run of
`~` every other character, the first to begin with, gives way to the next one, which stays. The
first run starts at the 129th character. -/
def mappingTable : String := "
20! =20 7. =20+308 . =61 2. - . =20+304 2. 2>32 =20+301 =3bc 2. =20+327 =31 =6f . =31+2044+34
=31+2044+32 =33+2044+34 . 17>e0 . 7>f8 21. 30~ =69+307 . 2=69+6a 4~ . 6~ 2=6c+b7 8~ =2bc+6e 2e~
=ff 6~ =73 . =253 4~ =254 =188 . 2>256 =18c 2. =1dd =259 =25b =192 . =260 =263 . =269 =268 =199 3.
=26f =272 . =275 6~ =280 =1a8 . =283 2. =1ad . =288 =1b0 . 2>28a 4~ =292 =1b9 3. =1bd 7. 3=64+17e
3=6c+6a 3=6e+6a 10~ . 12~ . 3=64+7a =1f5 . =195 =1bf 28~ =19e . 12~ 6. =2c65 =23c . =19a =2c66 2.
=242 . =180 =289 =28c a~ 60. =68 =266 =6a =72 =279 =27b =281 =77 =79 1f. =20+306 =20+307 =20+30a
=20+328 =20+303 =20+30b 2. =263 =6c =73 =78 =295 5b. 2>300 . =313 =308+301 =3b9 9. - 20. 4~ =2b9 .
=377 . 2! =20+3b9 3. =3b =3f3 4! =20+301 =20+308+301 =3ac =b7 3>3ad ! =3cc ! 2>3cd . 11>3b1 !
9>3c3 23. =3d7 =3b2 =3b8 =3c5 =3cd =3cb =3c6 =3c0 . 18~ =3ba =3c1 =3c3 . =3b8 =3b5 . =3f8 . =3c3
=3fb 2. 3>37b 10>450 20>430 30. 22~ 8. 36~ =4cf e~ . 60~ ! 26>561 2! 2e. =565+582 3. 2! 3. ! 37.
8! 1b. 4! 6. 11! 16. ! 58. =627+674 =648+674 =6c7+674 =64a+674 64. ! 30. 2! 3b. 2! 65. e! 3b. 2!
31. 2! f. ! 1c. 2! . ! b. 5! 20. 7! 4b. ! 75. =915+93c =916+93c =917+93c =91c+93c =921+93c
=922+93c =92b+93c =92f+93c 24. ! 8. 2! 2. 2! 16. ! 7. ! . 3! 4. 2! 9. 2! 2. 2! 4. 8! . 4! =9a1+9bc
=9a2+9bc ! =9af+9bc 4. 2! 19. 2! 3. ! 6. 4! 2. 2! 16. ! 7. ! . =a32+a3c ! . =a38+a3c ! 2. 2! . !
5. 4! 2. 2! 3. 3! . 7! =a16+a3c =a17+a3c =a1c+a3c . ! =a2b+a3c 7! 11. a! 3. ! 9. ! 3. ! 16. ! 7. !
2. ! 5. 2! a. ! 3. ! 3. 2! . f! 4. 2! c. 7! 7. ! 3. ! 8. 2! 2. 2! 16. ! 7. ! 2. ! 5. 2! 9. 2! 2.
2! 3. 7! 3. 4! =b21+b3c =b22+b3c ! 5. 2! 12. a! 2. ! 6. 3! 3. ! 4. 3! 2. ! . ! 2. 3! 2. 3! 3. 3!
c. 4! 5. 3! 3. ! 4. 2! . 6! . e! 15. 5! d. ! 3. ! 17. ! 10. 2! 9. ! 3. ! 4. 7! 2. ! 3. ! 2. 2! 4.
2! a. 7! 16. ! 3. ! 17. ! a. ! 5. 2! 9. ! 3. ! 4. 7! 2. 5! 3. ! 4. 2! a. ! 3. c! d. ! 3. ! 33. !
3. ! 6. 4! 10. 2! 1a. ! 3. ! 12. 3! 18. ! 9. ! . 2! 7. 3! . 4! 6. ! . ! 8. 6! a. 2! 3. c! 32.
=e4d+e32 7. 4! 1d. 25! 2. ! . ! 5. ! 18. ! . ! c. =ecd+eb2 a. 2! 5. ! . ! 7. ! a. 2! =eab+e99
=eab+ea1 2. 20! c. =f0b 36. =f42+fb7 4. ! 4. =f4c+fb7 4. =f51+fb7 4. =f56+fb7 4. =f5b+fb7 c.
=f40+fb5 3. 4! 2. =f71+f72 . =f71+f74 =fb2+f80 =fb2+f71+f80 =fb3+f80 =fb3+f71+f80 7. =f71+f80 11.
=f92+fb7 4. ! 4. =f9c+fb7 4. =fa1+fb7 4. =fa6+fb7 4. =fab+fb7 c. =f90+fb5 3. ! f. ! d. 25! a0.
26>2d00 ! =2d27 5! =2d2d 2! 2c. =10dc 62. 2- e8. ! 4. 2! 7. ! . ! 4. 2! 29. ! 4. 2! 21. ! 4. 2! 7.
! . ! 4. 2! f. ! 39. ! 4. 2! 43. 2! 20. 3! 1a. 6! 56. 2! 6>13f0 2! 280. ! 1c. 3! 59. 7! 16. 9! 18.
9! 14. c! d. ! 3. ! 2. c! 34. 2- 28. 2! a. 6! a. 6! b. 5- a. 6! 59. 7! 2b. 5! 46. a! 1f. ! c. 4!
c. 4! . 3! 2a. 2! 5. b! 2c. 4! 1a. 6! b. 3! 3e. 2! 41. ! 1d. 2! b. 6! a. 6! e. 2! 2e. 2! c. 14!
4d. ! a6. 8! 3c. 3! f. 3! 33. =432 =434 =43e 2>441 =442 =44a =463 =a64b =1c8a . 5! 2b>10d0 2!
3>10fd 8. 8! 2b. 5! 2c. =61 =e6 =62 . 2>64 =1dd 8>67 . =6f =223 =70 =72 2>74 =77 =61 2>250 =1d02
=62 2>64 =259 2>25b =67 . =6b =6d =14b =6f =254 2>1d16 =70 2>74 =1d1d =26f =76 =1d25 3>3b2 2>3c6
=69 =72 2>75 2>3b2 =3c1 2>3c6 d. =43d 22. =252 =63 =255 =f0 =25c =66 =25f =261 =265 3>268 =1d7b
=29d =26d =1d85 =29f =271 =270 4>272 =278 2>282 =1ab 2>289 =1d1c 2>28b =7a 3>290 =3b8 40. 96~ 4.
=61+2be =1e61 2. =df . 60~ 8. 8>1f00 6. 2! 6>1f10 2! 8. 8>1f20 8. 8>1f30 6. 2! 6>1f40 2! 8. !
=1f51 ! =1f53 ! =1f55 ! =1f57 8. 8>1f60 . =3ac . =3ad . =3ae . =3af . =3cc . =3cd . =3ce 2!
=1f00+3b9 =1f01+3b9 =1f02+3b9 =1f03+3b9 =1f04+3b9 =1f05+3b9 =1f06+3b9 =1f07+3b9 =1f00+3b9
=1f01+3b9 =1f02+3b9 =1f03+3b9 =1f04+3b9 =1f05+3b9 =1f06+3b9 =1f07+3b9 =1f20+3b9 =1f21+3b9
=1f22+3b9 =1f23+3b9 =1f24+3b9 =1f25+3b9 =1f26+3b9 =1f27+3b9 =1f20+3b9 =1f21+3b9 =1f22+3b9
=1f23+3b9 =1f24+3b9 =1f25+3b9 =1f26+3b9 =1f27+3b9 =1f60+3b9 =1f61+3b9 =1f62+3b9 =1f63+3b9
=1f64+3b9 =1f65+3b9 =1f66+3b9 =1f67+3b9 =1f60+3b9 =1f61+3b9 =1f62+3b9 =1f63+3b9 =1f64+3b9
=1f65+3b9 =1f66+3b9 =1f67+3b9 2. =1f70+3b9 =3b1+3b9 =3ac+3b9 ! . =1fb6+3b9 2>1fb0 =1f70 =3ac
=3b1+3b9 =20+313 =3b9 =20+313 =20+342 =20+308+342 =1f74+3b9 =3b7+3b9 =3ae+3b9 ! . =1fc6+3b9 =1f72
=3ad =1f74 =3ae =3b7+3b9 =20+313+300 =20+313+301 =20+313+342 3. =390 2! 2. 2>1fd0 =1f76 =3af !
=20+314+300 =20+314+301 =20+314+342 3. =3b0 4. 2>1fe0 =1f7a =3cd =1fe5 =20+308+300 =20+308+301 =60
2! =1f7c+3b9 =3c9+3b9 =3ce+3b9 ! . =1ff6+3b9 =1f78 =3cc =1f7c =3ce =3c9+3b9 =20+301 =20+314 ! b=20
- 2. 2! . =2010 5. =20+333 c. 3! . 7! =20 3. =2032+2032 =2032+2032+2032 . =2035+2035
=2035+2035+2035 4. =21+21 . =20+305 8. =3f+3f =3f+21 =21+3f d. =2032+2032+2032+2032 7. =20 5- 5!
6- =30 =69 2! 6>34 =2b =2212 =3d 2>28 =6e a>30 =2b =2212 =3d 2>28 ! =61 =65 =6f =78 =259 =68 4>6b
=70 2>73 3! 8. =72+73 19. e! 21. f! =61+2f+63 =61+2f+73 =63 =b0+63 . =63+2f+6f =63+2f+75 =25b .
=b0+66 2>67 3=68 =127 2=69 2=6c . =6e =6e+6f 2. 3>70 2=72 2. =73+6d =74+65+6c =74+6d . =7a . =3c9
. =7a . =6b =e5 2>62 . 2=65 =66 =214e =6d =6f 4>5d0 =69 . =66+61+78 =3c0 2=3b3 =3c0 =2211 4. 2=64
=65 2>69 6. =31+2044+37 =31+2044+39 =31+2044+31+30 =31+2044+33 =32+2044+33 =31+2044+35 =32+2044+35
=33+2044+35 =34+2044+35 =31+2044+36 =35+2044+36 =31+2044+38 =33+2044+38 =35+2044+38 =37+2044+38
=31+2044 =69 =69+69 =69+69+69 =69+76 =76 =76+69 =76+69+69 =76+69+69+69 =69+78 =78 =78+69 =78+69+69
=6c 2>63 =6d =69 =69+69 =69+69+69 =69+76 =76 =76+69 =76+69+69 =76+69+69+69 =69+78 =78 =78+69
=78+69+69 =6c 2>63 =6d 3. =2184 5. =30+2044+33 2. 4! 9c. =222b+222b =222b+222b+222b . =222e+222e
=222e+222e+222e f8. 2>3008 ff. 16! b. 15! 9>31 =31+30 =31+31 =31+32 =31+33 =31+34 =31+35 =31+36
=31+37 =31+38 =31+39 =32+30 =28+31+29 =28+32+29 =28+33+29 =28+34+29 =28+35+29 =28+36+29 =28+37+29
=28+38+29 =28+39+29 =28+31+30+29 =28+31+31+29 =28+31+32+29 =28+31+33+29 =28+31+34+29 =28+31+35+29
=28+31+36+29 =28+31+37+29 =28+31+38+29 =28+31+39+29 =28+32+30+29 14! =28+61+29 =28+62+29 =28+63+29
=28+64+29 =28+65+29 =28+66+29 =28+67+29 =28+68+29 =28+69+29 =28+6a+29 =28+6b+29 =28+6c+29
=28+6d+29 =28+6e+29 =28+6f+29 =28+70+29 =28+71+29 =28+72+29 =28+73+29 =28+74+29 =28+75+29
=28+76+29 =28+77+29 =28+78+29 =28+79+29 =28+7a+29 1a>61 1a>61 =30 521. =222b+222b+222b+222b 67.
=3a+3a+3d =3d+3d =3d+3d+3d 65. =2add+338 97. 2! 8a. 30>2c30 30. =2c61 . =26b =1d7d =27d 2. 6~ =251
=271 =250 =252 . =2c73 2. =2c76 6. =6a =76 2>23f 64~ 7. 4~ 3. =2cf3 . 5! 2d. ! . 5! . 2! 38. 7!
=2d61 . e! 18. 9! 7. ! 7. ! 7. ! 7. ! 7. ! 7. ! 7. ! 7. ! 7e. 22! 1a. ! 4. =6bcd 53. =9f9f c!
=4e00 =4e28 =4e36 =4e3f =4e59 =4e85 =4e8c =4ea0 =4eba =513f =5165 =516b =5182 =5196 =51ab =51e0
=51f5 =5200 =529b =52f9 =5315 =531a =5338 =5341 =535c =5369 =5382 =53b6 =53c8 =53e3 =56d7 =571f
=58eb =5902 =590a =5915 =5927 =5973 =5b50 =5b80 =5bf8 =5c0f =5c22 =5c38 =5c6e =5c71 =5ddb =5de5
=5df1 =5dfe =5e72 =5e7a =5e7f =5ef4 =5efe =5f0b =5f13 =5f50 =5f61 =5f73 =5fc3 =6208 =6236 =624b
=652f =6534 =6587 =6597 =65a4 =65b9 =65e0 =65e5 =66f0 =6708 =6728 =6b20 =6b62 =6b79 =6bb3 =6bcb
=6bd4 =6bdb =6c0f =6c14 =6c34 =706b =722a =7236 =723b =723f =7247 =7259 =725b =72ac =7384 =7389
=74dc =74e6 =7518 =751f =7528 =7530 =758b =7592 =7676 =767d =76ae =76bf =76ee =77db =77e2 =77f3
=793a =79b8 =79be =7a74 =7acb =7af9 =7c73 =7cf8 =7f36 =7f51 =7f8a =7fbd =8001 =800c =8012 =8033
=807f =8089 =81e3 =81ea =81f3 =81fc =820c =821b =821f =826e =8272 =8278 =864d =866b =8840 =884c
=8863 =897e =898b =89d2 =8a00 =8c37 =8c46 =8c55 =8c78 =8c9d =8d64 =8d70 =8db3 =8eab =8eca =8f9b
=8fb0 =8fb5 =9091 =9149 =91c6 =91cc =91d1 =9577 =9580 =961c =96b6 =96b9 =96e8 =9751 =975e =9762
=9769 =97cb =97ed =97f3 =9801 =98a8 =98db =98df =9996 =9999 =99ac =9aa8 =9ad8 =9adf =9b25 =9b2f
=9b32 =9b3c =9b5a =9ce5 =9e75 =9e7f =9ea5 =9ebb =9ec3 =9ecd =9ed1 =9ef9 =9efd =9f0e =9f13 =9f20
=9f3b =9f4a =9f52 =9f8d =9f9c =9fa0 2a! =20 . =2e 33. =3012 . =5341 2>5344 5. ! 56. 2! 2. =20+3099
=20+309a 2. =3088+308a 5f. =30b3+30c8 5! 2b. ! 2>1100 =11aa =1102 2>11ac 3>1103 6>11b0 =111a
3>1106 =1121 a>1109 15>1161 - 2>1114 2>11c7 =11cc =11ce =11d3 =11d7 =11d9 =111c =11dd =11df 2>111d
=1120 2>1122 =1127 =1129 5>112b =1132 =1136 =1140 =1147 =114c 2>11f1 3>1157 2>1184 =1188 2>1191
=1194 =119e =11a1 ! 2. =4e00 =4e8c =4e09 =56db =4e0a =4e2d =4e0b =7532 =4e59 =4e19 =4e01 =5929
=5730 =4eba 46. a! 10. =28+1100+29 =28+1102+29 =28+1103+29 =28+1105+29 =28+1106+29 =28+1107+29
=28+1109+29 =28+110b+29 =28+110c+29 =28+110e+29 =28+110f+29 =28+1110+29 =28+1111+29 =28+1112+29
=28+ac00+29 =28+b098+29 =28+b2e4+29 =28+b77c+29 =28+b9c8+29 =28+bc14+29 =28+c0ac+29 =28+c544+29
=28+c790+29 =28+cc28+29 =28+ce74+29 =28+d0c0+29 =28+d30c+29 =28+d558+29 =28+c8fc+29
=28+c624+c804+29 =28+c624+d6c4+29 ! =28+4e00+29 =28+4e8c+29 =28+4e09+29 =28+56db+29 =28+4e94+29
=28+516d+29 =28+4e03+29 =28+516b+29 =28+4e5d+29 =28+5341+29 =28+6708+29 =28+706b+29 =28+6c34+29
=28+6728+29 =28+91d1+29 =28+571f+29 =28+65e5+29 =28+682a+29 =28+6709+29 =28+793e+29 =28+540d+29
=28+7279+29 =28+8ca1+29 =28+795d+29 =28+52b4+29 =28+4ee3+29 =28+547c+29 =28+5b66+29 =28+76e3+29
=28+4f01+29 =28+8cc7+29 =28+5354+29 =28+796d+29 =28+4f11+29 =28+81ea+29 =28+81f3+29 =554f =5e7c
=6587 =7b8f 8. =70+74+65 =32+31 =32+32 =32+33 =32+34 =32+35 =32+36 =32+37 =32+38 =32+39 =33+30
=33+31 =33+32 =33+33 =33+34 =33+35 =1100 2>1102 3>1105 =1109 2>110b 5>110e =ac00 =b098 =b2e4 =b77c
=b9c8 =bc14 =c0ac =c544 =c790 =cc28 =ce74 =d0c0 =d30c =d558 =cc38+ace0 =c8fc+c758 =c6b0 . =4e00
=4e8c =4e09 =56db =4e94 =516d =4e03 =516b =4e5d =5341 =6708 =706b =6c34 =6728 =91d1 =571f =65e5
=682a =6709 =793e =540d =7279 =8ca1 =795d =52b4 =79d8 =7537 =5973 =9069 =512a =5370 =6ce8 =9805
=4f11 =5199 =6b63 =4e0a =4e2d =4e0b =5de6 =53f3 =533b =5b97 =5b66 =76e3 =4f01 =8cc7 =5354 =591c
=33+36 =33+37 =33+38 =33+39 =34+30 =34+31 =34+32 =34+33 =34+34 =34+35 =34+36 =34+37 =34+38 =34+39
=35+30 =31+6708 =32+6708 =33+6708 =34+6708 =35+6708 =36+6708 =37+6708 =38+6708 =39+6708
=31+30+6708 =31+31+6708 =31+32+6708 =68+67 =65+72+67 =65+76 =6c+74+64 =30a2 =30a4 =30a6 =30a8
2>30aa =30ad =30af =30b1 =30b3 =30b5 =30b7 =30b9 =30bb =30bd =30bf =30c1 =30c4 =30c6 =30c8 6>30ca
=30d2 =30d5 =30d8 =30db 5>30de =30e4 =30e6 6>30e8 4>30ef =4ee4+548c =30a2+30d1+30fc+30c8
=30a2+30eb+30d5+30a1 =30a2+30f3+30da+30a2 =30a2+30fc+30eb =30a4+30cb+30f3+30b0 =30a4+30f3+30c1
=30a6+30a9+30f3 =30a8+30b9+30af+30fc+30c9 =30a8+30fc+30ab+30fc =30aa+30f3+30b9 =30aa+30fc+30e0
=30ab+30a4+30ea =30ab+30e9+30c3+30c8 =30ab+30ed+30ea+30fc =30ac+30ed+30f3 =30ac+30f3+30de
=30ae+30ac =30ae+30cb+30fc =30ad+30e5+30ea+30fc =30ae+30eb+30c0+30fc =30ad+30ed
=30ad+30ed+30b0+30e9+30e0 =30ad+30ed+30e1+30fc+30c8+30eb =30ad+30ed+30ef+30c3+30c8 =30b0+30e9+30e0
=30b0+30e9+30e0+30c8+30f3 =30af+30eb+30bc+30a4+30ed =30af+30ed+30fc+30cd =30b1+30fc+30b9
=30b3+30eb+30ca =30b3+30fc+30dd =30b5+30a4+30af+30eb =30b5+30f3+30c1+30fc+30e0
=30b7+30ea+30f3+30b0 =30bb+30f3+30c1 =30bb+30f3+30c8 =30c0+30fc+30b9 =30c7+30b7 =30c9+30eb
=30c8+30f3 =30ca+30ce =30ce+30c3+30c8 =30cf+30a4+30c4 =30d1+30fc+30bb+30f3+30c8 =30d1+30fc+30c4
=30d0+30fc+30ec+30eb =30d4+30a2+30b9+30c8+30eb =30d4+30af+30eb =30d4+30b3 =30d3+30eb
=30d5+30a1+30e9+30c3+30c9 =30d5+30a3+30fc+30c8 =30d6+30c3+30b7+30a7+30eb =30d5+30e9+30f3
=30d8+30af+30bf+30fc+30eb =30da+30bd =30da+30cb+30d2 =30d8+30eb+30c4 =30da+30f3+30b9
=30da+30fc+30b8 =30d9+30fc+30bf =30dd+30a4+30f3+30c8 =30dc+30eb+30c8 =30db+30f3 =30dd+30f3+30c9
=30db+30fc+30eb =30db+30fc+30f3 =30de+30a4+30af+30ed =30de+30a4+30eb =30de+30c3+30cf
=30de+30eb+30af =30de+30f3+30b7+30e7+30f3 =30df+30af+30ed+30f3 =30df+30ea
=30df+30ea+30d0+30fc+30eb =30e1+30ac =30e1+30ac+30c8+30f3 =30e1+30fc+30c8+30eb =30e4+30fc+30c9
=30e4+30fc+30eb =30e6+30a2+30f3 =30ea+30c3+30c8+30eb =30ea+30e9 =30eb+30d4+30fc
=30eb+30fc+30d6+30eb =30ec+30e0 =30ec+30f3+30c8+30b2+30f3 =30ef+30c3+30c8 =30+70b9 =31+70b9
=32+70b9 =33+70b9 =34+70b9 =35+70b9 =36+70b9 =37+70b9 =38+70b9 =39+70b9 =31+30+70b9 =31+31+70b9
=31+32+70b9 =31+33+70b9 =31+34+70b9 =31+35+70b9 =31+36+70b9 =31+37+70b9 =31+38+70b9 =31+39+70b9
=32+30+70b9 =32+31+70b9 =32+32+70b9 =32+33+70b9 =32+34+70b9 =68+70+61 =64+61 =61+75 =62+61+72
=6f+76 =70+63 =64+6d =64+6d+32 =64+6d+33 =69+75 =5e73+6210 =662d+548c =5927+6b63 =660e+6cbb
=682a+5f0f+4f1a+793e =70+61 =6e+61 =3bc+61 =6d+61 =6b+61 =6b+62 =6d+62 =67+62 =63+61+6c
=6b+63+61+6c =70+66 =6e+66 =3bc+66 =3bc+67 =6d+67 =6b+67 =68+7a =6b+68+7a =6d+68+7a =67+68+7a
=74+68+7a =3bc+6c =6d+6c =64+6c =6b+6c =66+6d =6e+6d =3bc+6d =6d+6d =63+6d =6b+6d =6d+6d+32
=63+6d+32 =6d+32 =6b+6d+32 =6d+6d+33 =63+6d+33 =6d+33 =6b+6d+33 =6d+2215+73 =6d+2215+73+32 =70+61
=6b+70+61 =6d+70+61 =67+70+61 =72+61+64 =72+61+64+2215+73 =72+61+64+2215+73+32 =70+73 =6e+73
=3bc+73 =6d+73 =70+76 =6e+76 =3bc+76 =6d+76 =6b+76 =6d+76 =70+77 =6e+77 =3bc+77 =6d+77 =6b+77
=6d+77 =6b+3c9 =6d+3c9 ! =62+71 =63+63 =63+64 =63+2215+6b+67 ! =64+62 =67+79 =68+61 =68+70 =69+6e
=6b+6b =6b+6d =6b+74 =6c+6d =6c+6e =6c+6f+67 =6c+78 =6d+62 =6d+69+6c =6d+6f+6c =70+68 ! =70+70+6d
=70+72 =73+72 =73+76 =77+62 =76+2215+6d =61+2215+6d =31+65e5 =32+65e5 =33+65e5 =34+65e5 =35+65e5
=36+65e5 =37+65e5 =38+65e5 =39+65e5 =31+30+65e5 =31+31+65e5 =31+32+65e5 =31+33+65e5 =31+34+65e5
=31+35+65e5 =31+36+65e5 =31+37+65e5 =31+38+65e5 =31+39+65e5 =32+30+65e5 =32+31+65e5 =32+32+65e5
=32+33+65e5 =32+34+65e5 =32+35+65e5 =32+36+65e5 =32+37+65e5 =32+38+65e5 =32+39+65e5 =33+30+65e5
=33+31+65e5 =67+61+6c 708d. 3! 37. 9! 15c. 14! 2e~ 12. 1c~ =44a =44c 5a. 8! 22. e~ 2. 3e~ =a76f 8.
4~ =1d79 a~ 3. =a78c . =265 2. 4~ 2. 14~ =266 =25c =261 =26c =26a . =29e =287 =29d =ab53 10~ =a794
=282 =1d8e 4~ =264 10~ =19b 14! =73 =63 =66 =71 =a7f6 2. =127 =153 33. 3! a. 6! 38. 8! 46. 8! c.
6! 74. b! 1e. 3! 4e. ! b. 4! 21. ! 37. 9! e. 2! a. 2! 67. 18! 1c. a! 6. 2! 6. 2! 6. 9! 7. ! 7. !
2c. =a727 =ab37 =26b =ab52 9. =28d 2. 4! 50>13a0 2e. 2! a. 6! 2ba4. c! 17. 4! 31. 2104! =8c48
=66f4 =8eca =8cc8 =6ed1 =4e32 =53e5 2=9f9c =5951 =91d1 =5587 =5948 =61f6 =7669 =7f85 =863f =87ba
=88f8 =908f =6a02 =6d1b =70d9 =73de =843d =916a =99f1 =4e82 =5375 =6b04 =721b =862d =9e1e =5d50
=6feb =85cd =8964 =62c9 =81d8 =881f =5eca =6717 =6d6a =72fc =90ce =4f86 =51b7 =52de =64c4 =6ad3
=7210 =76e7 =8001 =8606 =865c =8def =9732 =9b6f =9dfa =788c =797f =7da0 =83c9 =9304 =9e7f =8ad6
=58df =5f04 =7c60 =807e =7262 =78ca =8cc2 =96f7 =58d8 =5c62 =6a13 =6dda =6f0f =7d2f =7e37 =964b
=52d2 =808b =51dc =51cc =7a1c =7dbe =83f1 =9675 =8b80 =62cf =6a02 =8afe =4e39 =5be7 =6012 =7387
=7570 =5317 =78fb =4fbf =5fa9 =4e0d =6ccc =6578 =7d22 =53c3 =585e =7701 =8449 =8aaa =6bba =8fb0
=6c88 =62fe =82e5 =63a0 =7565 =4eae =5169 =51c9 =6881 =7ce7 =826f =8ad2 =91cf =52f5 =5442 =5973
=5eec =65c5 =6ffe =792a =95ad =9a6a =9e97 =9ece =529b =66c6 =6b77 =8f62 =5e74 =6190 =6200 =649a
=6f23 =7149 =7489 =79ca =7df4 =806f =8f26 =84ee =9023 =934a =5217 =52a3 =54bd =70c8 =88c2 =8aaa
=5ec9 =5ff5 =637b =6bae =7c3e =7375 =4ee4 =56f9 =5be7 =5dba =601c =73b2 =7469 =7f9a =8046 =9234
=96f6 =9748 =9818 =4f8b =79ae =91b4 =96b8 =60e1 =4e86 =50da =5bee =5c3f =6599 =6a02 =71ce =7642
=84fc =907c =9f8d =6688 =962e =5289 =677b =67f3 =6d41 =6e9c =7409 =7559 =786b =7d10 =985e =516d
=622e =9678 =502b =5d19 =6dea =8f2a =5f8b =6144 =6817 =7387 =9686 =5229 =540f =5c65 =6613 =674e
=68a8 =6ce5 =7406 =75e2 =7f79 =88cf =88e1 =91cc =96e2 =533f =6eba =541d =71d0 =7498 =85fa =96a3
=9c57 =9e9f =6797 =6dcb =81e8 =7acb =7b20 =7c92 =72c0 =7099 =8b58 =4ec0 =8336 =523a =5207 =5ea6
=62d3 =7cd6 =5b85 =6d1e =66b4 =8f3b =884c =964d =898b =5ed3 =5140 =55c0 2. =585a . =6674 2. =51de
=732a =76ca =793c =795e =7965 =798f =9756 =7cbe =7fbd . =8612 . =8af8 2. =9038 =90fd 3. =98ef
=98fc =9928 =9db4 =90de =96b7 =4fae =50e7 =514d =52c9 =52e4 =5351 =559d =5606 =5668 =5840 =58a8
=5c64 =5c6e =6094 =6168 =618e =61f2 =654f =65e2 =6691 =6885 =6d77 =6e1a =6f22 =716e =722b =7422
=7891 =793e =7949 =7948 =7950 =7956 =795d 2>798d =7a40 =7a81 =7bc0 =7df4 =7e09 =7e41 =7f72 =8005
=81ed 2=8279 =8457 =8910 =8996 =8b01 =8b39 =8cd3 =8d08 =8fb6 =9038 =96e3 =97ff =983b =6075 =242ee
=8218 2! =4e26 =51b5 =5168 =4f80 =5145 =5180 =52c7 =52fa =559d =5555 =5599 =55e2 =585a =58b3 =5944
=5954 =5a62 =5b28 =5ed2 =5ed9 =5f69 =5fad =60d8 =614e =6108 =618e =6160 =61f2 =6234 =63c4 =641c
=6452 =6556 =6674 =6717 =671b =6756 =6b79 =6bba =6d41 =6edb =6ecb =6f22 =701e =716e =77a7 =7235
=72af =732a =7471 =7506 =753b =761d =761f =76ca =76db =76f4 =774a =7740 =78cc =7ab1 =7bc0 =7c7b
=7d5b =7df4 =7f3e =8005 =8352 =83ef =8779 =8941 =8986 =8996 =8abf =8af8 =8acb =8b01 =8afe =8aed
=8b39 =8b8a =8d08 =8f38 =9072 =9199 =9276 =967c =96e3 =9756 =97db =97ff =980b =983b =9b12 =9f9c
=2284a =22844 =233d5 =3b9d =4018 =4039 =25249 =25cd0 =27ed3 =9f43 =9f8e 26! =66+66 =66+69 =66+6c
=66+66+69 =66+66+6c 2=73+74 c! =574+576 =574+565 =574+56b =57e+576 =574+56d 5! =5d9+5b4 . =5f2+5b7
=5e2 =5d0 2>5d3 3>5db =5e8 =5ea =2b =5e9+5c1 =5e9+5c2 =5e9+5bc+5c1 =5e9+5bc+5c2 =5d0+5b7 =5d0+5b8
=5d0+5bc =5d1+5bc =5d2+5bc =5d3+5bc =5d4+5bc =5d5+5bc =5d6+5bc ! =5d8+5bc =5d9+5bc =5da+5bc
=5db+5bc =5dc+5bc ! =5de+5bc ! =5e0+5bc =5e1+5bc ! =5e3+5bc =5e4+5bc ! =5e6+5bc =5e7+5bc =5e8+5bc
=5e9+5bc =5ea+5bc =5d5+5b9 =5d1+5bf =5db+5bf =5e4+5bf =5d0+5dc 2=671 4=67b 4=67e 4=680 4=67a 4=67f
4=679 4=6a4 4=6a6 4=684 4=683 4=686 4=687 2=68d 2=68c 2=68e 2=688 2=698 2=691 4=6a9 4=6af 4=6b3
4=6b1 2=6ba 4=6bb 2=6c0 4=6c1 4=6be 2=6d2 2=6d3 21. 4=6ad 2=6c7 2=6c6 2=6c8 =6c7+674 2=6cb 2=6c5
2=6c9 4=6d0 2=649 2=626+627 2=626+6d5 2=626+648 2=626+6c7 2=626+6c6 2=626+6c8 3=626+6d0 3=626+649
4=6cc =626+62c =626+62d =626+645 =626+649 =626+64a =628+62c =628+62d =628+62e =628+645 =628+649
=628+64a =62a+62c =62a+62d =62a+62e =62a+645 =62a+649 =62a+64a =62b+62c =62b+645 =62b+649 =62b+64a
=62c+62d =62c+645 =62d+62c =62d+645 =62e+62c =62e+62d =62e+645 =633+62c =633+62d =633+62e =633+645
=635+62d =635+645 =636+62c =636+62d =636+62e =636+645 =637+62d =637+645 =638+645 =639+62c =639+645
=63a+62c =63a+645 =641+62c =641+62d =641+62e =641+645 =641+649 =641+64a =642+62d =642+645 =642+649
=642+64a =643+627 =643+62c =643+62d =643+62e =643+644 =643+645 =643+649 =643+64a =644+62c =644+62d
=644+62e =644+645 =644+649 =644+64a =645+62c =645+62d =645+62e =645+645 =645+649 =645+64a =646+62c
=646+62d =646+62e =646+645 =646+649 =646+64a =647+62c =647+645 =647+649 =647+64a =64a+62c =64a+62d
=64a+62e =64a+645 =64a+649 =64a+64a =630+670 =631+670 =649+670 =20+64c+651 =20+64d+651 =20+64e+651
=20+64f+651 =20+650+651 =20+651+670 =626+631 =626+632 =626+645 =626+646 =626+649 =626+64a =628+631
=628+632 =628+645 =628+646 =628+649 =628+64a =62a+631 =62a+632 =62a+645 =62a+646 =62a+649 =62a+64a
=62b+631 =62b+632 =62b+645 =62b+646 =62b+649 =62b+64a =641+649 =641+64a =642+649 =642+64a =643+627
=643+644 =643+645 =643+649 =643+64a =644+645 =644+649 =644+64a =645+627 =645+645 =646+631 =646+632
=646+645 =646+646 =646+649 =646+64a =649+670 =64a+631 =64a+632 =64a+645 =64a+646 =64a+649 =64a+64a
=626+62c =626+62d =626+62e =626+645 =626+647 =628+62c =628+62d =628+62e =628+645 =628+647 =62a+62c
=62a+62d =62a+62e =62a+645 =62a+647 =62b+645 =62c+62d =62c+645 =62d+62c =62d+645 =62e+62c =62e+645
=633+62c =633+62d =633+62e =633+645 =635+62d =635+62e =635+645 =636+62c =636+62d =636+62e =636+645
=637+62d =638+645 =639+62c =639+645 =63a+62c =63a+645 =641+62c =641+62d =641+62e =641+645 =642+62d
=642+645 =643+62c =643+62d =643+62e =643+644 =643+645 =644+62c =644+62d =644+62e =644+645 =644+647
=645+62c =645+62d =645+62e =645+645 =646+62c =646+62d =646+62e =646+645 =646+647 =647+62c =647+645
=647+670 =64a+62c =64a+62d =64a+62e =64a+645 =64a+647 =626+645 =626+647 =628+645 =628+647 =62a+645
=62a+647 =62b+645 =62b+647 =633+645 =633+647 =634+645 =634+647 =643+644 =643+645 =644+645 =646+645
=646+647 =64a+645 =64a+647 =640+64e+651 =640+64f+651 =640+650+651 =637+649 =637+64a =639+649
=639+64a =63a+649 =63a+64a =633+649 =633+64a =634+649 =634+64a =62d+649 =62d+64a =62c+649 =62c+64a
=62e+649 =62e+64a =635+649 =635+64a =636+649 =636+64a =634+62c =634+62d =634+62e =634+645 =634+631
=633+631 =635+631 =636+631 =637+649 =637+64a =639+649 =639+64a =63a+649 =63a+64a =633+649 =633+64a
=634+649 =634+64a =62d+649 =62d+64a =62c+649 =62c+64a =62e+649 =62e+64a =635+649 =635+64a =636+649
=636+64a =634+62c =634+62d =634+62e =634+645 =634+631 =633+631 =635+631 =636+631 =634+62c =634+62d
=634+62e =634+645 =633+647 =634+647 =637+645 =633+62c =633+62d =633+62e =634+62c =634+62d =634+62e
=637+645 =638+645 2=627+64b 12. =62a+62c+645 2=62a+62d+62c =62a+62d+645 =62a+62e+645 =62a+645+62c
=62a+645+62d =62a+645+62e 2=62c+645+62d =62d+645+64a =62d+645+649 =633+62d+62c =633+62c+62d
=633+62c+649 2=633+645+62d =633+645+62c 2=633+645+645 2=635+62d+62d =635+645+645 2=634+62d+645
=634+62c+64a 2=634+645+62e 2=634+645+645 =636+62d+649 2=636+62e+645 2=637+645+62d =637+645+645
=637+645+64a =639+62c+645 2=639+645+645 =639+645+649 =63a+645+645 =63a+645+64a =63a+645+649
2=641+62e+645 =642+645+62d =642+645+645 =644+62d+645 =644+62d+64a =644+62d+649 2=644+62c+62c
2=644+62e+645 2=644+645+62d =645+62d+62c =645+62d+645 =645+62d+64a =645+62c+62d =645+62c+645
=645+62e+62c =645+62e+645 2. =645+62c+62e =647+645+62c =647+645+645 =646+62d+645 =646+62d+649
2=646+62c+645 =646+62c+649 =646+645+64a =646+645+649 2=64a+645+645 =628+62e+64a =62a+62c+64a
=62a+62c+649 =62a+62e+64a =62a+62e+649 =62a+645+64a =62a+645+649 =62c+645+64a =62c+62d+649
=62c+645+649 =633+62e+649 =635+62d+64a =634+62d+64a =636+62d+64a =644+62c+64a =644+645+64a
=64a+62d+64a =64a+62c+64a =64a+645+64a =645+645+64a =642+645+64a =646+62d+64a =642+645+62d
=644+62d+645 =639+645+64a =643+645+64a =646+62c+62d =645+62e+64a =644+62c+645 =643+645+645
=644+62c+645 =646+62c+62d =62c+62d+64a =62d+62c+64a =645+62c+64a =641+645+64a =628+62d+64a
=643+645+645 =639+62c+645 =635+645+645 =633+62e+64a =646+62c+64a 8. 20! =635+644+6d2 =642+644+6d2
=627+644+644+647 =627+643+628+631 =645+62d+645+62f =635+644+639+645 =631+633+648+644
=639+644+64a+647 =648+633+644+645 =635+644+649
=635+644+649+20+627+644+644+647+20+639+644+64a+647+20+648+633+644+645
=62c+644+20+62c+644+627+644+647 =631+6cc+627+644 3. 10- =2c =3001 ! 2>3a =21 =3f 2>3016 7! 10. !
=2014 =2013 2=5f 2>28 =7b =7d 2>3014 2>3010 2>300a 2>3008 4>300c 2. =5b =5d 4=20+305 3=5f =2c
=3001 2! =3b =3a =3f =21 =2014 2>28 =7b =7d 2>3014 =23 =26 2>2a =2d =3c =3e =3d ! =5c 2>24 =40 4!
=20+64b =640+64b =20+64c . =20+64d ! =20+64e =640+64e =20+64f =640+64f =20+650 =640+650 =20+651
=640+651 =20+652 =640+652 2>621 2>622 2>623 2>624 2>625 3=626 2=627 4=628 2=629 4=62a 4=62b 4=62c
4=62d 4=62e 2=62f 2=630 2=631 2=632 4=633 4=634 4=635 4=636 4=637 4=638 4=639 4=63a 4=641 4=642
4=643 4=644 4=645 4=646 4=647 2=648 2=649 4=64a 2=644+622 2=644+623 2=644+625 2=644+627 2! - !
20>21 1a>61 24>5b 2>2985 =2e 2>300c =3001 =30fb =30f2 =30a1 =30a3 =30a5 =30a7 =30a9 =30e3 =30e5
=30e7 =30c3 =30fc =30a2 =30a4 =30a6 =30a8 2>30aa =30ad =30af =30b1 =30b3 =30b5 =30b7 =30b9 =30bb
=30bd =30bf =30c1 =30c4 =30c6 =30c8 6>30ca =30d2 =30d5 =30d8 =30db 5>30de =30e4 =30e6 6>30e8 =30ef
=30f3 2>3099 - 2>1100 =11aa =1102 2>11ac 3>1103 6>11b0 =111a 3>1106 =1121 a>1109 3! 6>1161 2!
6>1167 2! 6>116d 2! 3>1173 3! 2>a2 =ac =20+304 =a6 =a5 =20a9 ! =2502 4>2190 =25a0 =25cb 11! c. !
1a. ! 13. ! 2. ! f. 2! e. 22! 7b. 5! 3. 4! 2d. 3! 58. ! d. 3! . 2f! 2e. 82! 1d. 3! 31. f! 1c. 4!
24. 9! 1e. 5! 2b. 5! 1e. ! 25. 4! e. 2a! 28>10428 76. 2! a. 6! 24>104d8 4! 24. 4! 28. 8! 34. b! .
b>10597 ! f>105a3 ! 7>105b3 ! 2>105bb ! b. ! f. ! 7. ! 2. 3! 34. c! 137. 9! 16. a! 8. 18! . 2>2d0
=e6 =299 =253 ! =2a3 =ab66 =2a5 =2a4 2>256 =1d91 =258 =25e =2a9 =264 =262 =260 =29b =127 =29c =267
=284 2>2aa =26c =1df04 =a78e =26e =1df05 =28e =1df06 =f8 2>276 =71 =27a =1df08 2>27d =280 =2a8
=2a6 =ab67 =2a7 =288 =2c71 ! =28f 2>2a1 =298 3>1c0 =1df0a =1df1e 45! 6. 2! . ! 2c. ! 2. 3! . 2!
17. ! 48. 8! 9. 30! 13. ! 2. 5! 21. 3! 1b. 5! 1b. 26! 38. 4! 14. 2! 32. ! 2. 5! 8. ! 3. ! 1d. 2!
3. 4! a. 7! 9. 7! 40. 20! 27. 4! c. 9! 36. 3! 1d. 2! 1b. 5! 1a. 7! 4. c! 7. 50! 49. 37! 33>10cc0
d! 33. 7! 2e. 8! a. 6! 10. 16>10d70 3! 1d. 8! 2. d0! 1f. ! 2a. ! 3. 2! 2. 10! 6. 8! 9. 21! 2e. 8!
2a. 16! 1a. 26! 1c. 14! 17. 9! 4e. 4! 24. 9! 3e. ! 5. d! 19. 7! a. 6! 35. ! 12. 8! 27. 9! 60. !
14. b! 12. ! 2f. 3e! 7. ! . ! 4. ! f. ! b. 6! 3b. 5! a. 6! 4. ! 8. 2! 2. 2! 16. ! 7. ! 2. ! 5. !
a. 2! 2. 2! 3. 2! . 6! . 5! 7. 2! 7. 3! 5. b! a. ! . 2! . ! 26. ! a. ! . 2! . ! 4. ! a. ! 2. 8! 2.
1d! 5c. ! 5. 1e! 48. 8! a. a6! 36. 2! 26. 22! 45. b! a. 6! d. 13! 3a. 6! a. 6! 14. 1c! 1b. 2! f.
4! 17. b9! 3c. 64! 20>118c0 33. c! 8. 2! . 2! 8. ! 2. ! 1e. ! 2. 2! c. 9! a. 46! 8. 2! 2e. 2! b.
1b! 48. 8! 53. d! 49. 7! a. 56! 8. 58! 22. e! a. 6! 9. ! 2d. ! e. a! 1d. 3! 20. 2! 16. ! e. 49! 7.
! 2. ! 2c. 3! . ! 2. ! 9. 8! a. 6! 6. ! 2. ! 25. ! 2. ! 6. 7! a. 6! 2c. 4! a. f6! 19. 7! 11. ! 29.
3! 1d. 55! . f! 32. d! 39b. 66! 6f. ! 5. b! c4. a4c! 63. d! 430. 10! 16. a! f9b. 5! 247. 1ab9! 3a.
6c6! 239. 7! 1f. ! a. 4! 51. ! a. 6! 1e. 2! 6. a! 46. a! a. ! 7. ! 15. 5! 13. 1b0! 3a. c6!
20>16e60 3b. 5! 19>16ebb 2! 19. 2c! 4b. 4! 39. 7! 11. 40! 5. b! 7. 9! 1cd6. 29! 20. 61! 73. 21fd!
4. ! 7. ! 2. ! 123. f! . 1d! 3. 2! . e! 4. 8! 18c. 904! 6b. 5! d. 3! 9. 7! a. 2! 4. 4- f5c! d6.
1a>61 a>30 3. 3! 1b4. 6! 17. f! 11. f! 2e. 2! 17. 9! 74. 3c! f6. a! 27. 2! 35. =1d157+1d165
=1d158+1d165 =1d158+1d165+1d16e =1d158+1d165+1d16f =1d158+1d165+1d170 =1d158+1d165+1d171
=1d158+1d165+1d172 e. 8- 40. =1d1b9+1d165 =1d1ba+1d165 =1d1b9+1d165+1d16e =1d1ba+1d165+1d16e
=1d1b9+1d165+1d16f =1d1ba+1d165+1d16f 2a. 15! 46. 7a! 14. c! 14. c! 57. 9! 19. 87! 1a>61 1a>61
1a>61 7>61 ! 12>69 1a>61 1a>61 =61 ! 2>63 2! =67 2! 2>6a 2! 4>6e ! 8>73 4>61 ! =66 ! 7>68 ! b>70
1a>61 1a>61 2>61 ! 4>64 2! 8>6a ! 7>73 ! 1a>61 2>61 ! 4>64 ! 5>69 ! =6f 3! 7>73 ! 1a>61 1a>61
1a>61 1a>61 1a>61 1a>61 1a>61 1a>61 1a>61 1a>61 1a>61 1a>61 1a>61 =131 =237 2! 11>3b1 =3b8 7>3c3
=2207 11>3b1 2=3c3 6>3c4 =2202 =3b5 =3b8 =3ba =3c6 =3c1 =3c0 11>3b1 =3b8 7>3c3 =2207 11>3b1 2=3c3
6>3c4 =2202 =3b5 =3b8 =3ba =3c6 =3c1 =3c0 11>3b1 =3b8 7>3c3 =2207 11>3b1 2=3c3 6>3c4 =2202 =3b5
=3b8 =3ba =3c6 =3c1 =3c0 11>3b1 =3b8 7>3c3 =2207 11>3b1 2=3c3 6>3c4 =2202 =3b5 =3b8 =3ba =3c6 =3c1
=3c0 11>3b1 =3b8 7>3c3 =2207 11>3b1 2=3c3 6>3c4 =2202 =3b5 =3b8 =3ba =3c6 =3c1 =3c0 2=3dd 2! a>30
a>30 a>30 a>30 a>30 28c. f! 5. ! f. 450! 1f. 6! 6. d5! 7. ! 11. 2! 7. ! 2. ! 5. 5! 9>430 3>43a
b>43e =44b 2>44d =a689 =4d9 =456 =458 =4e9 =4af =4cf 9>430 2>43a 2>43e =441 6>443 2>44a =491 =456
=455 =45f =4ab =a651 =4b1 21! . 70! 2d. 3! e. 2! a. 4! 2. 140! 1f. 11! 3a. 5! . 1d0! 2a. d6! 2b.
4! . c0! 1f. ! 16. 8! 2. e0! 7. ! 4. ! 2. ! f. ! c5. 2! 10. 29! 22>1e922 2a. 4! a. 4! 2. 311! 44.
4c! 3d. c2! 2>627 =62c =62f ! =648 =632 =62d =637 =64a 4>643 =633 =639 =641 =635 =642 =631 =634
2>62a =62e =630 =636 =638 =63a =66e =6ba =6a1 =66f ! =628 =62c ! =647 2! =62d ! =64a 4>643 =633
=639 =641 =635 =642 ! =634 2>62a =62e ! =636 ! =63a 6! =62c 4! =62d ! =64a ! =644 ! =646 =633 =639
! =635 =642 ! =634 2! =62e ! =636 ! =63a ! =6ba ! =66f ! =628 =62c ! =647 2! =62d =637 =64a =643 !
2>645 =633 =639 =641 =635 =642 ! =634 2>62a =62e ! =636 =638 =63a =66e ! =6a1 ! 2>627 =62c =62f
2>647 =632 =62d =637 =64a ! 3>644 =633 =639 =641 =635 =642 =631 =634 2>62a =62e =630 =636 =638
=63a 5! =628 =62c =62f ! =648 =632 =62d =637 =64a ! 3>644 =633 =639 =641 =635 =642 =631 =634 2>62a
=62e =630 =636 =638 =63a 34! 2. 10e! 2c. 4! 64. c! f. 2! f. ! f. ! 25. b! =30+2c =31+2c =32+2c
=33+2c =34+2c =35+2c =36+2c =37+2c =38+2c =39+2c 5. =28+61+29 =28+62+29 =28+63+29 =28+64+29
=28+65+29 =28+66+29 =28+67+29 =28+68+29 =28+69+29 =28+6a+29 =28+6b+29 =28+6c+29 =28+6d+29
=28+6e+29 =28+6f+29 =28+70+29 =28+71+29 =28+72+29 =28+73+29 =28+74+29 =28+75+29 =28+76+29
=28+77+29 =28+78+29 =28+79+29 =28+7a+29 =3014+73+3015 =63 =72 =63+64 =77+7a . 1a>61 =68+76 =6d+76
=73+64 =73+73 =70+70+76 =77+63 1a. =6d+63 =6d+64 =6d+72 23. =64+6a 1d. 38! 1a. =307b+304b
=30b3+30b3 =30b5 d! =624b =5b57 =53cc =30c7 =4e8c =591a =89e3 =5929 =4ea4 =6620 =7121 =6599 =524d
=5f8c =518d =65b0 =521d =7d42 =751f =8ca9 =58f0 =5439 =6f14 =6295 =6355 =4e00 =4e09 =904a =5de6
=4e2d =53f3 =6307 =8d70 =6253 =7981 =7a7a =5408 =6e80 =6709 =6708 =7533 =5272 =55b6 =914d 4!
=3014+672c+3015 =3014+4e09+3015 =3014+4e8c+3015 =3014+5b89+3015 =3014+70b9+3015 =3014+6253+3015
=3014+76d7+3015 =3014+52dd+3015 =3014+6557+3015 7! =5f97 =53ef e! 6. 9a! 3d9. 3! 11. 3! d. 3! da.
6! c. 4! . f! c. 4! 38. 8! a. 6! 28. 8! 1e. 2! c. 4! 2. e! 9. 27! 158. 8! e. 2! d. 3! b. 3! 39. !
. 4! 10. 2! c. 4! a. 7! 93. ! 5c. a>30 . 405! a6e0. 20! 111e. 2! 168e. 2! 1d31. f! 26e. 9a2! =4e3d
=4e38 =4e41 =20122 =4f60 =4fae =4fbb =5002 =507a =5099 =50e7 =50cf =349e =2063a =514d =5154 =5164
=5177 =2051c =34b9 =5167 =518d =2054b =5197 =51a4 =4ecc =51ac =51b5 =291df =51f5 =5203 =34df =523b
=5246 =5272 =5277 =3515 =52c7 =52c9 =52e4 =52fa 2>5305 =5317 =5349 =5351 =535a =5373 =537d 3=537f
=20a2c =7070 =53ca =53df =20b63 =53eb =53f1 =5406 =549e =5438 =5448 =5468 =54a2 =54f6 =5510 =5553
=5563 2=5584 =5599 =55ab =55b3 =55c2 =5716 =5606 =5717 =5651 =5674 =5207 =58ee =57ce =57f4 =580d
=578b =5832 =5831 =58ac =214e4 =58f2 =58f7 =5906 =591a =5922 =5962 =216a8 =216ea =59ec =5a1b =5a27
=59d8 =5a66 =36ee =36fc =5b08 2=5b3e =219c8 =5bc3 =5bd8 =5be7 =5bf3 =21b18 =5bff =5c06 =5f53 =5c22
=3781 =5c60 =5c6e =5cc0 =5c8d =21de4 =5d43 =21de6 =5d6e =5d6b =5d7c 2>5de1 =382f =5dfd =5e28 =5e3d
=5e69 =3862 =22183 =387c =5eb0 =5eb3 =5eb6 =5eca =2a392 =5efe 2=22331 =8201 2=5f22 =38c7 =232b8
=261da =5f62 =5f6b =38e3 =5f9a =5fcd =5fd7 =5ff9 =6081 =393a =391c =6094 =226d4 =60c7 =6148 =614c
=614e =614c =617a =618e =61b2 =61a4 =61af =61de =61f2 =61f6 =6210 =621b =625d =62b1 =62d4 =6350
=22b0c =633d =62fc =6368 =6383 =63e4 =22bf1 =6422 =63c5 =63a9 =3a2e =6469 =647e =649d =6477 =3a6c
=654f =656c =2300a =65e3 =66f8 =6649 =3b19 =6691 =3b08 =3ae4 =5192 =5195 =6700 =669c =80ad =43d9
=6717 =671b =6721 =675e =6753 =233c3 =3b49 =67fa =6785 =6852 =6885 =2346d =688e =681f =6914 =3b9d
=6942 =69a3 =69ea =6aa8 =236a3 =6adb =3c18 =6b21 =238a7 =6b54 =3c4e =6b72 =6b9f 2>6bba =23a8d
=21d0b =23afa =6c4e =23cbc =6cbf =6ccd =6c67 =6d16 =6d3e =6d77 =6d41 =6d69 =6d78 =6d85 =23d1e
=6d34 =6e2f =6e6e =3d33 =6ecb =6ec7 =23ed1 =6df9 =6f6e =23f5e =23f8e =6fc6 =7039 =701e =701b =3d96
=704a =707d =7077 =70ad =20525 =7145 =24263 =719c =243ab =7228 =7235 =7250 =24608 =7280 =7295
=24735 =24814 =737a =738b =3eac =73a5 2=3eb8 =7447 =745c =7471 =7485 =74ca =3f1b =7524 =24c36
=753e =24c92 =7570 =2219f =7610 =24fa1 =24fb8 =25044 =3ffc =4008 =76f4 =250f3 =250f2 =25119 =25133
2>771e =771f =774a =4039 =778b =4046 =4096 =2541d =784e =788c =78cc =40e3 =25626 =7956 =2569a
=256c5 =798f =79eb =412f =7a40 =7a4a =7a4f =2597c 2=25aa7 =7aee =4202 =25bab =7bc6 =7bc9 =4227
=25c80 =7cd2 =42a0 =7ce8 =7ce3 =7d00 =25f86 =7d63 =4301 =7dc7 =7e02 =7e45 =4334 =26228 =26247
=4359 =262d9 =7f7a =2633e =7f95 =7ffa =8005 =264da =26523 =8060 =265a8 =8070 =2335f =43d5 =80b2
=8103 =440b =813e =5ab5 =267a7 =267b5 =23393 =2339c =8201 =8204 =8f9e =446b =8291 =828b =829d
=52b3 =82b1 =82b3 =82bd =82e6 =26b3c =82e5 =831d =8363 =83ad =8323 =83bd =83e7 =8457 =8353 =83ca
=83cc =83dc =26c36 =26d6b =26cd5 =452b =84f1 =84f3 =8516 =273ca =8564 =26f2c =455d =4561 =26fb1
=270d2 =456b =8650 =865c =8667 =8669 =86a9 =8688 =870e =86e2 =8779 =8728 =876b =8786 =45d7 =87e1
=8801 =45f9 =8860 =8863 =27667 =88d7 =88de =4635 =88fa =34bb =278ae =27966 =46be =46c7 =8aa0 =8aed
=8b8a =8c55 =27ca8 =8cab =8cc1 =8d1b =8d77 =27f2f =20804 =8dcb =8dbc =8df0 =208de =8ed4 =8f38
=285d2 =285ed =9094 =90f1 =9111 =2872e =911b =9238 2>92d7 =927c =93f9 =9415 =28bfa =958b =4995
=95b7 =28d77 =49e6 =96c3 =5db2 =9723 =29145 =2921a =4a6e =4a76 =97e0 =2940a =4ab2 =29496 2=980b
=9829 =295b6 =98e2 =4b33 =9929 =99a7 =99c2 =99fe =4bce =29b30 =9b12 =9c40 =9cfd =4cce =4ced =9d67
=2a0ce =4cf8 =2a105 =2a20e =2a291 =9ebb =4d56 =9ef9 =9efe =9f05 =9f0f =9f16 =9f3b =2a600 5e2!
134b. 5! 212a. acc86! f0-"

end RollupBridge.Domain
