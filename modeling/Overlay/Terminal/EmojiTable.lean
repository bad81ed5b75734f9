/-
The names of emoji, in alphabetical order.
-/
namespace Overlay.Terminal

/-- All names with the code points they stand for. An entry gives the number of characters that its name
shares with the name before it, a colon, the rest of the name, an equals sign and the code points. -/
def emojiTable : String := "
  0:+1=1F44D 0:-1=1F44E 0:100=1F4AF 1:234=1F522 1:st_place_medal=1F947 0:2nd_place_medal=1F948
  0:3rd_place_medal=1F949 0:8ball=1F3B1 0:__1=1F44E 0:a=1F170 1:_button_(blood_type)=1F170 1:b=1F18E
  2:_button_(blood_type)=1F18E 2:acus=1F9EE 2:c=1F524 3:d=1F521 1:ccept=1F251
  1:dhesive_bandage=1FA79 2:mission_tickets=1F39F 2:ult=1F9D1 5:_dark_skin_tone=1F9D1,1F3FF
  6:light_skin_tone=1F9D1,1F3FB 6:medium-dark_skin_tone=1F9D1,1F3FE 13:light_skin_tone=1F9D1,1F3FC
  12:_skin_tone=1F9D1,1F3FD 1:erial_tramway=1F6A1 1:fghanistan=1F1E6,1F1EB 1:irplane=2708
  8:_arrival=1F6EC 14:ing=1F6EC 9:departure=1F6EB 1:larm_clock=23F0 2:bania=1F1E6,1F1F1 2:embic=2697
  2:geria=1F1E9,1F1FF 2:ien=1F47D 5:_monster=1F47E 1:mbulance=1F691 2:erican_football=1F3C8
  9:samoa=1F1E6,1F1F8 2:phora=1F3FA 1:nchor=2693 2:dorra=1F1E6,1F1E9 2:gel=1F47C 4:r=1F4A2
  5:_symbol=1F4A2 3:ola=1F1E6,1F1F4 3:ry=1F620 5:_face=1F620 10:_with_horns=1F47F
  3:uilla=1F1E6,1F1EE 5:shed=1F627 9:_face=1F627 2:t=1F41C 3:arctica=1F1E6,1F1F6 3:enna_bars=1F4F6
  3:igua_&_barbuda=1F1E6,1F1EC 2:xious_face_with_sweat=1F630 1:pple=1F34E 1:quarius=2652
  1:rgentina=1F1E6,1F1F7 2:ies=2648 2:menia=1F1E6,1F1F2 2:row_backward=25C0 6:double_down=23EC
  13:up=23EB 8:wn=2B07 10:_small=1F53D 6:forward=25B6 6:heading_down=2935 14:up=2934 6:left=2B05
  7:ower_left=2199 12:right=2198 6:right=27A1 11:_hook=21AA 6:up=2B06 8:_down=2195 9:small=1F53C
  8:per_left=2196 12:right=2197 5:s_clockwise=1F503 8:ounterclockwise=1F504 2:t=1F3A8
  3:iculated_lorry=1F69B 4:st_palette=1F3A8 2:uba=1F1E6,1F1FC 1:scension_island=1F1E6,1F1E8
  2:tonished=1F632 10:_face=1F632 1:thletic_shoe=1F45F 2:m=1F3E7 3:_sign=1F3E7 2:om_symbol=269B
  1:ustralia=1F1E6,1F1FA 5:ia=1F1E6,1F1F9 2:to_rickshaw=1F6FA 4:mobile=1F697 1:vocado=1F951
  1:xe=1FA93 1:zerbaijan=1F1E6,1F1FF 0:b=1F171 1:_button_(blood_type)=1F171 1:aby=1F476
  4:_angel=1F47C 10:_dark_skin_tone=1F47C,1F3FF 11:light_skin_tone=1F47C,1F3FB
  11:medium-dark_skin_tone=1F47C,1F3FE 18:light_skin_tone=1F47C,1F3FC 17:_skin_tone=1F47C,1F3FD
  5:bottle=1F37C 5:chick=1F424 5:dark_skin_tone=1F476,1F3FF 5:light_skin_tone=1F476,1F3FB
  5:medium-dark_skin_tone=1F476,1F3FE 12:light_skin_tone=1F476,1F3FC 11:_skin_tone=1F476,1F3FD
  5:symbol=1F6BC 2:ck=1F519 4:_arrow=1F519 4:hand_index_pointing_down=1F447
  28:_dark_skin_tone=1F447,1F3FF 29:light_skin_tone=1F447,1F3FB 29:medium-dark_skin_tone=1F447,1F3FE
  36:light_skin_tone=1F447,1F3FC 35:_skin_tone=1F447,1F3FD 24:left=1F448
  28:_dark_skin_tone=1F448,1F3FF 29:light_skin_tone=1F448,1F3FB 29:medium-dark_skin_tone=1F448,1F3FE
  36:light_skin_tone=1F448,1F3FC 35:_skin_tone=1F448,1F3FD 24:right=1F449
  29:_dark_skin_tone=1F449,1F3FF 30:light_skin_tone=1F449,1F3FB 30:medium-dark_skin_tone=1F449,1F3FE
  37:light_skin_tone=1F449,1F3FC 36:_skin_tone=1F449,1F3FD 24:up=1F446
  26:_dark_skin_tone=1F446,1F3FF 27:light_skin_tone=1F446,1F3FB 27:medium-dark_skin_tone=1F446,1F3FE
  34:light_skin_tone=1F446,1F3FC 33:_skin_tone=1F446,1F3FD 3:on=1F953 2:dger=1F9A1 3:minton=1F3F8
  9:_racquet_and_shuttlecock=1F3F8 2:gel=1F96F 3:gage_claim=1F6C4 3:uette_bread=1F956
  2:hamas=1F1E7,1F1F8 3:rain=1F1E7,1F1ED 2:lance_scale=2696 3:d=1F9B2 4:_man=1F468,200D,1F9B2
  5:woman=1F469,200D,1F9B2 3:let_shoes=1FA70 4:oon=1F388 5:t_box_with_ballot=1F5F3 16:check=2611
  2:mboo=1F38D 2:nana=1F34C 3:gbang=203C 4:ladesh=1F1E7,1F1E9 3:jo=1FA95 3:k=1F3E6 2:r_chart=1F4CA
  3:bados=1F1E7,1F1E7 4:er=1F488 6:_pole=1F488 2:seball=26BE 3:ket=1F9FA 6:ball=1F3C0 2:t=1F987
  3:h=1F6C0 4:tub=1F6C1 3:tery=1F50B 1:each_with_umbrella=1F3D6 3:ming_face_with_smiling_eyes=1F601
  3:r=1F43B 4:_face=1F43B 4:ded_person=1F9D4 14:_dark_skin_tone=1F9D4,1F3FF
  15:light_skin_tone=1F9D4,1F3FB 15:medium-dark_skin_tone=1F9D4,1F3FE 22:light_skin_tone=1F9D4,1F3FC
  21:_skin_tone=1F9D4,1F3FD 3:ting_heart=1F493 2:d=1F6CF 2:e=1F41D 3:r=1F37A 4:_mug=1F37A 4:s=1F37B
  3:tle=1F41E 2:ginner=1F530 2:larus=1F1E7,1F1FE 3:gium=1F1E7,1F1EA 3:ize=1F1E7,1F1FF 3:l=1F514
  4:_with_slash=1F515 4:hop_bell=1F6CE 2:nin=1F1E7,1F1EF 3:to=1F371 5:_box=1F371 2:rmuda=1F1E7,1F1F2
  2:verage_box=1F9C3 1:hutan=1F1E7,1F1F9 1:icycle=1F6B2 6:ist=1F6B4 2:ke=1F6B2 3:ini=1F459
  2:lled_cap=1F9E2 2:ohazard=2623 9:_sign=2623 2:rd=1F426 3:thday=1F382 8:_cake=1F382
  1:lack_circle=26AB 12:_for_record=23FA 6:flag=1F3F4 6:heart=1F5A4 6:joker=1F0CF
  6:large_square=2B1B 7:eft__pointing_double_triangle_with_vertical_bar=23EE
  6:medium-small_square=25FE 12:_small_square=25FE 14:quare=25FC 6:nib=2712
  6:right__pointing_double_triangle_with_vertical_bar=23ED 22:triangle_with_double_vertical_bar=23EF
  6:small_square=25AA 7:quare_button=1F532 13:for_stop=23F9 2:ond-haired_man=1F471,200D,2642,FE0F
  16:_dark_skin_tone=1F471,1F3FF,200D,2642,FE0F 17:light_skin_tone=1F471,1F3FB,200D,2642,FE0F
  17:medium-dark_skin_tone=1F471,1F3FE,200D,2642,FE0F 24:light_skin_tone=1F471,1F3FC,200D,2642,FE0F
  23:_skin_tone=1F471,1F3FD,200D,2642,FE0F 13:person=1F471 19:_dark_skin_tone=1F471,1F3FF
  20:light_skin_tone=1F471,1F3FB 20:medium-dark_skin_tone=1F471,1F3FE 27:light_skin_tone=1F471,1F3FC
  26:_skin_tone=1F471,1F3FD 13:woman=1F471,200D,2640,FE0F
  18:_dark_skin_tone=1F471,1F3FF,200D,2640,FE0F 19:light_skin_tone=1F471,1F3FB,200D,2640,FE0F
  19:medium-dark_skin_tone=1F471,1F3FE,200D,2640,FE0F 26:light_skin_tone=1F471,1F3FC,200D,2640,FE0F
  25:_skin_tone=1F471,1F3FD,200D,2640,FE0F 3:ssom=1F33C 3:wfish=1F421 2:ue_book=1F4D8 5:car=1F699
  6:ircle=1F535 5:heart=1F499 5:square=1F7E6 3:sh=1F60A 1:oar=1F417 3:t=26F5 2:livia=1F1E7,1F1F4
  2:mb=1F4A3 2:ne=1F9B4 2:ok=1F4D6 4:mark=1F516 8:_tabs=1F4D1 4:s=1F4DA 3:m=1F4A5 3:t=1F462
  2:snia_&_herzegovina=1F1E7,1F1E6 2:tswana=1F1E7,1F1FC 3:tle_with_popping_cork=1F37E 2:uquet=1F490
  3:vet_island=1F1E7,1F1FB 2:w=1F647 3:_and_arrow=1F3F9 3:l_with_spoon=1F963 4:ing=1F3B3
  2:xing_glove=1F94A 2:y=1F466 3:_dark_skin_tone=1F466,1F3FF 4:light_skin_tone=1F466,1F3FB
  4:medium-dark_skin_tone=1F466,1F3FE 11:light_skin_tone=1F466,1F3FC 10:_skin_tone=1F466,1F3FD
  1:rain=1F9E0 3:zil=1F1E7,1F1F7 2:ead=1F35E 4:st-feeding=1F931 14:_dark_skin_tone=1F931,1F3FF
  15:light_skin_tone=1F931,1F3FB 15:medium-dark_skin_tone=1F931,1F3FE 22:light_skin_tone=1F931,1F3FC
  21:_skin_tone=1F931,1F3FD 2:ick=1F9F1 3:de_with_veil=1F470 15:_dark_skin_tone=1F470,1F3FF
  16:light_skin_tone=1F470,1F3FB 16:medium-dark_skin_tone=1F470,1F3FE 23:light_skin_tone=1F470,1F3FC
  22:_skin_tone=1F470,1F3FD 4:ge_at_night=1F309 3:efcase=1F4BC 5:s=1FA72 3:ght_button=1F506
  3:tish_indian_ocean_territory=1F1EE,1F1F4 8:virgin_islands=1F1FB,1F1EC 2:occoli=1F966
  3:ken_heart=1F494 3:om=1F9F9 3:wn_circle=1F7E4 6:heart=1F90E 6:square=1F7EB 2:unei=1F1E7,1F1F3
  1:ug=1F41B 2:ilding_construction=1F3D7 2:lb=1F4A1 3:garia=1F1E7,1F1EC 3:let_train=1F685
  6:train_front=1F685 12:side=1F684 2:rkina_faso=1F1E7,1F1EB 3:rito=1F32F 3:undi=1F1E7,1F1EE
  2:s=1F68C 3:_stop=1F68F 3:stop=1F68F 3:t_in_silhouette=1F464 4:s_in_silhouette=1F465 2:tter=1F9C8
  6:fly=1F98B 0:cactus=1F335 2:ke=1F370 2:lendar=1F4C6 3:l_me_hand=1F919
  12:_dark_skin_tone=1F919,1F3FF 13:light_skin_tone=1F919,1F3FB 13:medium-dark_skin_tone=1F919,1F3FE
  20:light_skin_tone=1F919,1F3FC 19:_skin_tone=1F919,1F3FD 4:ing=1F4F2 2:mbodia=1F1F0,1F1ED
  3:el=1F42B 4:ra=1F4F7 6:_with_flash=1F4F8 5:oon=1F1E8,1F1F2 3:ping=1F3D5 2:nada=1F1E8,1F1E6
  4:ry_islands=1F1EE,1F1E8 3:cer=264B 3:dle=1F56F 4:y=1F36C 3:ned_food=1F96B 3:oe=1F6F6
  2:pe_verde=1F1E8,1F1FB 3:ital_abcd=1F520 3:ricorn=2651 2:r=1F697 3:d_file_box=1F5C3 5:index=1F4C7
  10:_dividers=1F5C2 3:ibbean_netherlands=1F1E7,1F1F6 3:ousel_horse=1F3A0 3:p_streamer=1F38F
  3:rot=1F955 2:stle=1F3F0 2:t=1F431 3:2=1F408 3:_face=1F431 8:_with_tears_of_joy=1F639
  14:wry_smile=1F63C 2:yman_islands=1F1F0,1F1FE 1:d=1F4BF 1:entral_african_republic=1F1E8,1F1EB
  2:uta_&_melilla=1F1EA,1F1E6 1:had=1F1F9,1F1E9 3:ins=26D3 4:r=1FA91 3:rt=1F4B9 5:_decreasing=1F4C9
  6:increasing=1F4C8 16:_with_yen=1F4B9 6:with_downwards_trend=1F4C9 11:upwards_trend=1F4C8
  2:eckered_flag=1F3C1 3:ese_wedge=1F9C0 3:quered_flag=1F3C1 3:rries=1F352 5:y_blossom=1F338
  3:ss_pawn=265F 4:tnut=1F330 2:icken=1F414 3:ld=1F9D2 5:_dark_skin_tone=1F9D2,1F3FF
  6:light_skin_tone=1F9D2,1F3FB 6:medium-dark_skin_tone=1F9D2,1F3FE 13:light_skin_tone=1F9D2,1F3FC
  12:_skin_tone=1F9D2,1F3FD 5:ren_crossing=1F6B8 4:e=1F1E8,1F1F1 3:na=1F1E8,1F1F3 3:pmunk=1F43F
  2:ocolate_bar=1F36B 3:psticks=1F962 2:ristmas_island=1F1E8,1F1FD 10:tree=1F384 2:urch=26EA
  1:igarette=1F6AC 2:nema=1F3A6 2:rcled_m=24C2 4:us_tent=1F3AA 2:ty_sunrise=1F307 8:set=1F306
  4:scape=1F3D9 9:_at_dusk=1F306 1:l=1F191 2:_button=1F191 2:amp=1F5DC 3:p=1F44F 4:per=1F3AC
  7:_board=1F3AC 5:ing_hands=1F44F 14:_dark_skin_tone=1F44F,1F3FF 15:light_skin_tone=1F44F,1F3FB
  15:medium-dark_skin_tone=1F44F,1F3FE 22:light_skin_tone=1F44F,1F3FC 21:_skin_tone=1F44F,1F3FD
  3:ssical_building=1F3DB 2:inking_beer_mugs=1F37B 9:glasses=1F942 3:pboard=1F4CB
  4:perton_island=1F1E8,1F1F5 2:ock1=1F550 6:0=1F559 7:30=1F565 6:1=1F55A 7:30=1F566 6:2=1F55B
  7:30=1F567 6:30=1F55C 5:2=1F551 6:30=1F55D 5:3=1F552 6:30=1F55E 5:4=1F553 6:30=1F55F 5:5=1F554
  6:30=1F560 5:6=1F555 6:30=1F561 5:7=1F556 6:30=1F562 5:8=1F557 6:30=1F563 5:9=1F558 6:30=1F564
  5:wise_vertical_arrows=1F503 3:sed_book=1F4D5 7:lock_with_key=1F510
  7:mailbox_with_lowered_flag=1F4EA 20:raised_flag=1F4EB 7:umbrella=1F302 3:ud=2601
  5:_with_lightning=1F329 20:_and_rain=26C8 11:rain=1F327 11:snow=1F328 11:tornado=1F32A
  3:wn_face=1F921 2:ub_suit=2663 4:s=2663 3:tch_bag=1F45D 1:oat=1F9E5 2:cktail=1F378 8:_glass=1F378
  3:onut=1F965 4:s_(keeling)_islands=1F1E8,1F1E8 2:ffee=2615 4:in=26B0 2:ld_face=1F976 5:sweat=1F630
  3:lision=1F4A5 3:ombia=1F1E8,1F1F4 2:met=2604 3:oros=1F1F0,1F1F2 3:pass=1F9ED 4:ression=1F5DC
  4:uter=1F4BB 8:_disk=1F4BD 9:mouse=1F5B1 2:nfetti_ball=1F38A 4:ounded=1F616 10:_face=1F616
  4:used=1F615 8:_face=1F615 3:go_-_brazzaville=1F1E8,1F1EC 8:kinshasa=1F1E8,1F1E9
  4:ratulations=3297 3:struction=1F6A7 12:_worker=1F477 19:_dark_skin_tone=1F477,1F3FF
  20:light_skin_tone=1F477,1F3FB 20:medium-dark_skin_tone=1F477,1F3FE 27:light_skin_tone=1F477,1F3FC
  26:_skin_tone=1F477,1F3FD 3:trol_knobs=1F39B 3:venience_store=1F3EA 2:ok_islands=1F1E8,1F1F0
  4:ed_rice=1F35A 4:ie=1F36A 5:ng=1F373 3:l=1F192 4:_button=1F192 2:p=1F46E 3:yright=A9 2:rn=1F33D
  2:sta_rica=1F1E8,1F1F7 2:uch_and_lamp=1F6CB 3:nterclockwise_arrows_button=1F504 3:ple=1F46B
  6:_with_heart=1F491 17:_man_man=1F468,200D,2764,FE0F,200D,1F468
  18:woman_man=1F469,200D,2764,FE0F,200D,1F468 24:woman=1F469,200D,2764,FE0F,200D,1F469 6:kiss=1F48F
  2:w=1F42E 3:2=1F404 3:_face=1F42E 3:boy_hat_face=1F920 1:rab=1F980 3:yon=1F58D 2:edit_card=1F4B3
  3:scent_moon=1F319 2:icket=1F997 7:_bat_and_ball=1F3CF 8:game=1F3CF 2:oatia=1F1ED,1F1F7
  3:codile=1F40A 3:issant=1F950 3:ss_mark=274C 10:_button=274E 5:ed_fingers=1F91E
  15:_dark_skin_tone=1F91E,1F3FF 16:light_skin_tone=1F91E,1F3FB 16:medium-dark_skin_tone=1F91E,1F3FE
  23:light_skin_tone=1F91E,1F3FC 22:_skin_tone=1F91E,1F3FD 9:lags=1F38C 8:swords=2694 3:wn=1F451
  2:y=1F622 3:ing_cat_face=1F63F 7:face=1F622 3:stal_ball=1F52E 1:uba=1F1E8,1F1FA 2:cumber=1F952
  2:p_with_straw=1F964 3:cake=1F9C1 3:id=1F498 2:raçao=1F1E8,1F1FC 3:ling_stone=1F94C
  4:y-haired_man=1F468,200D,1F9B1 13:woman=1F469,200D,1F9B1 5:_hair=1F9B1 6:loop=27B0
  3:rency_exchange=1F4B1 4:y=1F35B 5:_rice=1F35B 2:stard=1F36E 4:oms=1F6C3 2:t_of_meat=1F969
  1:yclone=1F300 2:prus=1F1E8,1F1FE 1:zechia=1F1E8,1F1FF 1:ôte_d’ivoire=1F1E8,1F1EE 0:dagger=1F5E1
  6:_knife=1F5E1 2:ncer=1F483 6:s=1F46F 3:go=1F361 2:rk_skin_tone=1F3FF 6:unglasses=1F576 3:t=1F3AF
  2:sh=1F4A8 4:ing_away=1F4A8 2:te=1F4C5 1:eaf_person=1F9CF 2:ciduous_tree=1F333 2:er=1F98C
  2:livery_truck=1F69A 2:nmark=1F1E9,1F1F0 2:partment_store=1F3EC 2:relict_house=1F3DA
  14:_building=1F3DA 2:sert=1F3DC 6:_island=1F3DD 3:ktop_computer=1F5A5 2:tective=1F575
  9:_dark_skin_tone=1F575,1F3FF 10:light_skin_tone=1F575,1F3FB 10:medium-dark_skin_tone=1F575,1F3FE
  17:light_skin_tone=1F575,1F3FC 16:_skin_tone=1F575,1F3FD 1:iamond_shape_with_a_dot_inside=1F4A0
  9:uit=2666 8:with_a_dot=1F4A0 7:s=2666 2:ego_garcia=1F1E9,1F1EC 2:m_button=1F505 2:rect_hit=1F3AF
  2:sappointed=1F61E 12:_face=1F61E 13:relieved=1F625 2:ving_mask=1F93F 2:ya_lamp=1FA94 2:zzy=1F4AB
  5:_face=1F635 1:jibouti=1F1E9,1F1EF 1:na=1F9EC 1:o_not_litter=1F6AF 2:g=1F436 3:2=1F415
  3:_face=1F436 2:llar=1F4B5 6:_banknote=1F4B5 4:s=1F38E 3:phin=1F42C 2:minica=1F1E9,1F1F2
  8:n_republic=1F1E9,1F1F4 2:or=1F6AA 2:tted_six-pointed_star=1F52F 2:uble_curly_loop=27BF
  7:exclamation_mark=203C 7:vertical_bar=23F8 3:ghnut=1F369 2:ve=1F54A 4:_of_peace=1F54A
  2:wn-left_arrow=2199 5:right_arrow=2198 4:_arrow=2B07 4:cast_face_with_sweat=1F613
  4:wards_button=1F53D 1:ragon=1F409 6:_face=1F432 2:ess=1F457 2:omedary_camel=1F42A
  3:oling_face=1F924 3:p_of_blood=1FA78 4:let=1F4A7 2:um=1F941 1:uck=1F986 2:mpling=1F95F 1:vd=1F4C0
  0:e-mail=1F4E7 1:__mail=1F4E7 1:agle=1F985 2:r=1F442 3:_dark_skin_tone=1F442,1F3FF
  4:light_skin_tone=1F442,1F3FB 4:medium-dark_skin_tone=1F442,1F3FE 11:light_skin_tone=1F442,1F3FC
  10:_skin_tone=1F442,1F3FD 4:of_corn=1F33D 7:rice=1F33E 4:with_hearing_aid=1F9BB 3:th_africa=1F30D
  7:mericas=1F30E 7:sia=1F30F 1:cuador=1F1EA,1F1E8 1:gg=1F373 3:plant=1F346 2:ypt=1F1EA,1F1EC
  1:ight=38,FE0F,20E3 5:-pointed_star=2734 6:spoked_asterisk=2733 6:thirty=1F563 5:_o’clock=1F557
  6:pointed_black_star=2734 6:spoked_asterisk=2733 1:ject_button=23CF 6:symbol=23CF
  1:l_salvador=1F1F8,1F1FB 2:ectric_plug=1F50C 3:phant=1F418 3:ven-thirty=1F566 6:_o’clock=1F55A
  2:f=1F9DD 3:_dark_skin_tone=1F9DD,1F3FF 4:light_skin_tone=1F9DD,1F3FB
  4:medium-dark_skin_tone=1F9DD,1F3FE 11:light_skin_tone=1F9DD,1F3FC 10:_skin_tone=1F9DD,1F3FD
  1:mail=2709 2:oji_modifier_fitzpatrick_type__1__2=1F3FB 33:3=1F3FC 33:4=1F3FD 33:5=1F3FE
  33:6=1F3FF 1:nd=1F51A 3:_arrow=1F51A 2:gland=1F3F4,E0067,E0062,E0065,E006E,E0067,E007F
  2:velope=2709 8:_with_arrow=1F4E9 1:quatorial_guinea=1F1EC,1F1F6 1:ritrea=1F1EA,1F1F7
  1:stonia=1F1EA,1F1EA 1:thiopia=1F1EA,1F1F9 1:uro=1F4B6 4:_banknote=1F4B6 4:pean_castle=1F3F0
  9:post_office=1F3E4 9:union=1F1EA,1F1FA 1:vergreen_tree=1F332 1:we=1F411 1:xclamation=2757
  11:_mark=2757 12:question_mark=2049 2:ploding_head=1F92F 3:ressionless=1F611 14:_face=1F611
  1:ye=1F441 3:_in_speech_bubble=1F441,FE0F,200D,1F5E8,FE0F 3:glasses=1F453 3:s=1F440
  0:face_blowing_a_kiss=1F618 5:savoring_food=1F60B 6:creaming_in_fear=1F631 5:vomiting=1F92E
  5:with_hand_over_mouth=1F92D 11:ead-bandage=1F915 14:__bandage=1F915 10:medical_mask=1F637
  11:onocle=1F9D0 10:open_mouth=1F62E 10:raised_eyebrow=1F928 11:olling_eyes=1F644
  10:steam_from_nose=1F624 11:ymbols_on_mouth=1F92C 10:tears_of_joy=1F602 11:hermometer=1F912
  11:ongue=1F61B 9:out_mouth=1F636 4:punch=1F44A 3:tory=1F3ED 2:iry=1F9DA
  5:_dark_skin_tone=1F9DA,1F3FF 6:light_skin_tone=1F9DA,1F3FB 6:medium-dark_skin_tone=1F9DA,1F3FE
  13:light_skin_tone=1F9DA,1F3FC 12:_skin_tone=1F9DA,1F3FD 2:lafel=1F9C6 3:kland_islands=1F1EB,1F1F0
  3:len_leaf=1F342 2:mily=1F46A 6:_man_boy=1F468,200D,1F466 14:_boy=1F468,200D,1F466,200D,1F466
  11:girl=1F468,200D,1F467 15:_boy=1F468,200D,1F467,200D,1F466 16:girl=1F468,200D,1F467,200D,1F467
  11:man_boy=1F468,200D,1F468,200D,1F466 18:_boy=1F468,200D,1F468,200D,1F466,200D,1F466
  15:girl=1F468,200D,1F468,200D,1F467 19:_boy=1F468,200D,1F468,200D,1F467,200D,1F466
  20:girl=1F468,200D,1F468,200D,1F467,200D,1F467 11:woman_boy=1F468,200D,1F469,200D,1F466
  20:_boy=1F468,200D,1F469,200D,1F466,200D,1F466 17:girl=1F468,200D,1F469,200D,1F467
  21:_boy=1F468,200D,1F469,200D,1F467,200D,1F466 22:girl=1F468,200D,1F469,200D,1F467,200D,1F467
  7:woman_boy=1F469,200D,1F466 16:_boy=1F469,200D,1F466,200D,1F466 13:girl=1F469,200D,1F467
  17:_boy=1F469,200D,1F467,200D,1F466 18:girl=1F469,200D,1F467,200D,1F467
  13:woman_boy=1F469,200D,1F469,200D,1F466 22:_boy=1F469,200D,1F469,200D,1F466,200D,1F466
  19:girl=1F469,200D,1F469,200D,1F467 23:_boy=1F469,200D,1F469,200D,1F467,200D,1F466
  24:girl=1F469,200D,1F469,200D,1F467,200D,1F467 2:roe_islands=1F1EB,1F1F4 2:st-forward_button=23E9
  4:_down_button=23EC 5:forward=23E9 5:reverse_button=23EA 5:up_button=23EB 2:x=1F4E0
  3:_machine=1F4E0 1:earful=1F628 7:_face=1F628 2:et=1F43E 2:male_sign=2640 2:rris_wheel=1F3A1
  4:y=26F4 1:ield_hockey=1F3D1 12:_stick_and_ball=1F3D1 2:ji=1F1EB,1F1EF 2:le_cabinet=1F5C4
  5:folder=1F4C1 3:m_frames=1F39E 5:projector=1F4FD 2:nland=1F1EB,1F1EE 2:re=1F525 4:_engine=1F692
  6:xtinguisher=1F9EF 4:cracker=1F9E8 4:works=1F386 3:st_quarter_moon=1F313 18:_face=1F31B
  19:with_face=1F31B 2:sh=1F41F 4:_cake=1F365 9:_with_swirl=1F365 4:ing_pole=1F3A3
  12:_and_fish=1F3A3 3:t=270A 2:ve=35,FE0F,20E3 4:-thirty=1F560 4:_o’clock=1F554
  1:lag_for_afghanistan=1F1E6,1F1EB 10:lbania=1F1E6,1F1F1 11:geria=1F1E9,1F1FF
  10:merican_samoa=1F1E6,1F1F8 10:ndorra=1F1E6,1F1E9 11:gola=1F1E6,1F1F4 12:uilla=1F1E6,1F1EE
  11:tarctica=1F1E6,1F1F6 12:igua_&_barbuda=1F1E6,1F1EC 10:rgentina=1F1E6,1F1F7 11:menia=1F1E6,1F1F2
  11:uba=1F1E6,1F1FC 10:scension_island=1F1E6,1F1E8 10:ustralia=1F1E6,1F1FA 14:ia=1F1E6,1F1F9
  10:zerbaijan=1F1E6,1F1FF 9:bahamas=1F1E7,1F1F8 12:rain=1F1E7,1F1ED 11:ngladesh=1F1E7,1F1E9
  11:rbados=1F1E7,1F1E7 10:elarus=1F1E7,1F1FE 12:gium=1F1E7,1F1EA 12:ize=1F1E7,1F1FF
  11:nin=1F1E7,1F1EF 11:rmuda=1F1E7,1F1F2 10:hutan=1F1E7,1F1F9 10:olivia=1F1E7,1F1F4
  11:snia_&_herzegovina=1F1E7,1F1E6 11:tswana=1F1E7,1F1FC 11:uvet_island=1F1E7,1F1FB
  10:razil=1F1E7,1F1F7 11:itish_indian_ocean_territory=1F1EE,1F1F4 17:virgin_islands=1F1FB,1F1EC
  11:unei=1F1E7,1F1F3 10:ulgaria=1F1E7,1F1EC 11:rkina_faso=1F1E7,1F1EB 12:undi=1F1E7,1F1EE
  9:cambodia=1F1F0,1F1ED 12:eroon=1F1E8,1F1F2 11:nada=1F1E8,1F1E6 13:ry_islands=1F1EE,1F1E8
  11:pe_verde=1F1E8,1F1FB 11:ribbean_netherlands=1F1E7,1F1F6 11:yman_islands=1F1F0,1F1FE
  10:entral_african_republic=1F1E8,1F1EB 11:uta_&_melilla=1F1EA,1F1E6 10:had=1F1F9,1F1E9
  11:ile=1F1E8,1F1F1 12:na=1F1E8,1F1F3 11:ristmas_island=1F1E8,1F1FD 10:lipperton_island=1F1E8,1F1F5
  10:ocos__islands=1F1E8,1F1E8 11:lombia=1F1E8,1F1F4 11:moros=1F1F0,1F1F2
  11:ngo____brazzaville=1F1E8,1F1EC 18:kinshasa=1F1E8,1F1E9 11:ok_islands=1F1E8,1F1F0
  11:sta_rica=1F1E8,1F1F7 10:roatia=1F1ED,1F1F7 10:uba=1F1E8,1F1FA 11:raçao=1F1E8,1F1FC
  10:yprus=1F1E8,1F1FE 10:zech_republic=1F1E8,1F1FF 10:ôte_d’ivoire=1F1E8,1F1EE
  9:denmark=1F1E9,1F1F0 10:iego_garcia=1F1E9,1F1EC 10:jibouti=1F1E9,1F1EF 10:ominica=1F1E9,1F1F2
  17:n_republic=1F1E9,1F1F4 9:ecuador=1F1EA,1F1E8 10:gypt=1F1EA,1F1EC 10:l_salvador=1F1F8,1F1FB
  10:quatorial_guinea=1F1EC,1F1F6 10:ritrea=1F1EA,1F1F7 10:stonia=1F1EA,1F1EA 10:thiopia=1F1EA,1F1F9
  10:uropean_union=1F1EA,1F1FA 9:falkland_islands=1F1EB,1F1F0 11:roe_islands=1F1EB,1F1F4
  10:iji=1F1EB,1F1EF 11:nland=1F1EB,1F1EE 10:rance=1F1EB,1F1F7 11:ench_guiana=1F1EC,1F1EB
  16:polynesia=1F1F5,1F1EB 16:southern_territories=1F1F9,1F1EB 9:gabon=1F1EC,1F1E6
  11:mbia=1F1EC,1F1F2 10:eorgia=1F1EC,1F1EA 11:rmany=1F1E9,1F1EA 10:hana=1F1EC,1F1ED
  10:ibraltar=1F1EC,1F1EE 10:reece=1F1EC,1F1F7 13:nland=1F1EC,1F1F1 12:nada=1F1EC,1F1E9
  10:uadeloupe=1F1EC,1F1F5 12:m=1F1EC,1F1FA 12:temala=1F1EC,1F1F9 11:ernsey=1F1EC,1F1EC
  11:inea=1F1EC,1F1F3 15:__bissau=1F1EC,1F1FC 11:yana=1F1EC,1F1FE 9:haiti=1F1ED,1F1F9
  10:eard_&_mcdonald_islands=1F1ED,1F1F2 10:onduras=1F1ED,1F1F3 12:g_kong=1F1ED,1F1F0
  10:ungary=1F1ED,1F1FA 9:iceland=1F1EE,1F1F8 10:ndia=1F1EE,1F1F3 12:onesia=1F1EE,1F1E9
  10:ran=1F1EE,1F1F7 12:q=1F1EE,1F1F6 11:eland=1F1EE,1F1EA 10:sle_of_man=1F1EE,1F1F2
  11:rael=1F1EE,1F1F1 10:taly=1F1EE,1F1F9 9:jamaica=1F1EF,1F1F2 11:pan=1F1EF,1F1F5
  10:ersey=1F1EF,1F1EA 10:ordan=1F1EF,1F1F4 9:kazakhstan=1F1F0,1F1FF 10:enya=1F1F0,1F1EA
  10:iribati=1F1F0,1F1EE 10:osovo=1F1FD,1F1F0 10:uwait=1F1F0,1F1FC 10:yrgyzstan=1F1F0,1F1EC
  9:laos=1F1F1,1F1E6 11:tvia=1F1F1,1F1FB 10:ebanon=1F1F1,1F1E7 11:sotho=1F1F1,1F1F8
  10:iberia=1F1F1,1F1F7 12:ya=1F1F1,1F1FE 11:echtenstein=1F1F1,1F1EE 11:thuania=1F1F1,1F1F9
  10:uxembourg=1F1F1,1F1FA 9:macau=1F1F2,1F1F4 12:edonia=1F1F2,1F1F0 11:dagascar=1F1F2,1F1EC
  11:lawi=1F1F2,1F1FC 13:ysia=1F1F2,1F1FE 12:dives=1F1F2,1F1FB 12:i=1F1F2,1F1F1 12:ta=1F1F2,1F1F9
  11:rshall_islands=1F1F2,1F1ED 12:tinique=1F1F2,1F1F6 11:uritania=1F1F2,1F1F7 15:ius=1F1F2,1F1FA
  11:yotte=1F1FE,1F1F9 10:exico=1F1F2,1F1FD 10:icronesia=1F1EB,1F1F2 10:oldova=1F1F2,1F1E9
  11:naco=1F1F2,1F1E8 12:golia=1F1F2,1F1F3 12:tenegro=1F1F2,1F1EA 13:serrat=1F1F2,1F1F8
  11:rocco=1F1F2,1F1E6 11:zambique=1F1F2,1F1FF 10:yanmar=1F1F2,1F1F2 9:namibia=1F1F3,1F1E6
  11:uru=1F1F3,1F1F7 10:epal=1F1F3,1F1F5 11:therlands=1F1F3,1F1F1 11:w_caledonia=1F1F3,1F1E8
  13:zealand=1F1F3,1F1FF 10:icaragua=1F1F3,1F1EE 11:ger=1F1F3,1F1EA 14:ia=1F1F3,1F1EC
  11:ue=1F1F3,1F1FA 10:orfolk_island=1F1F3,1F1EB 12:th_korea=1F1F0,1F1F5
  14:ern_mariana_islands=1F1F2,1F1F5 12:way=1F1F3,1F1F4 9:oman=1F1F4,1F1F2 9:pakistan=1F1F5,1F1F0
  11:lau=1F1F5,1F1FC 12:estinian_territories=1F1F5,1F1F8 11:nama=1F1F5,1F1E6
  11:pua_new_guinea=1F1F5,1F1EC 11:raguay=1F1F5,1F1FE 10:eru=1F1F5,1F1EA 10:hilippines=1F1F5,1F1ED
  10:itcairn_islands=1F1F5,1F1F3 10:oland=1F1F5,1F1F1 11:rtugal=1F1F5,1F1F9
  10:uerto_rico=1F1F5,1F1F7 9:qatar=1F1F6,1F1E6 9:romania=1F1F7,1F1F4 10:ussia=1F1F7,1F1FA
  10:wanda=1F1F7,1F1FC 10:éunion=1F1F7,1F1EA 9:samoa=1F1FC,1F1F8 11:n_marino=1F1F8,1F1F2
  11:udi_arabia=1F1F8,1F1E6 10:enegal=1F1F8,1F1F3 11:rbia=1F1F7,1F1F8 11:ychelles=1F1F8,1F1E8
  10:ierra_leone=1F1F8,1F1F1 11:ngapore=1F1F8,1F1EC 12:t_maarten=1F1F8,1F1FD 10:lovakia=1F1F8,1F1F0
  13:enia=1F1F8,1F1EE 10:olomon_islands=1F1F8,1F1E7 11:malia=1F1F8,1F1F4 11:uth_africa=1F1FF,1F1E6
  15:georgia_&_south_sandwich_islands=1F1EC,1F1F8 15:korea=1F1F0,1F1F7 15:sudan=1F1F8,1F1F8
  10:pain=1F1EA,1F1F8 10:ri_lanka=1F1F1,1F1F0 10:t._barthélemy=1F1E7,1F1F1 13:helena=1F1F8,1F1ED
  13:kitts_&_nevis=1F1F0,1F1F3 13:lucia=1F1F1,1F1E8 13:martin=1F1F2,1F1EB
  13:pierre_&_miquelon=1F1F5,1F1F2 13:vincent_&_grenadines=1F1FB,1F1E8 10:udan=1F1F8,1F1E9
  11:riname=1F1F8,1F1F7 10:valbard_&_jan_mayen=1F1F8,1F1EF 10:waziland=1F1F8,1F1FF
  11:eden=1F1F8,1F1EA 11:itzerland=1F1E8,1F1ED 10:yria=1F1F8,1F1FE 10:ão_tomé_&_príncipe=1F1F8,1F1F9
  9:taiwan=1F1F9,1F1FC 11:jikistan=1F1F9,1F1EF 11:nzania=1F1F9,1F1FF 10:hailand=1F1F9,1F1ED
  10:imor__leste=1F1F9,1F1F1 10:ogo=1F1F9,1F1EC 11:kelau=1F1F9,1F1F0 11:nga=1F1F9,1F1F4
  10:rinidad_&_tobago=1F1F9,1F1F9 12:stan_da_cunha=1F1F9,1F1E6 10:unisia=1F1F9,1F1F3
  11:rkey=1F1F9,1F1F7 13:menistan=1F1F9,1F1F2 13:s_&_caicos_islands=1F1F9,1F1E8 11:valu=1F1F9,1F1FB
  9:u.s._outlying_islands=1F1FA,1F1F2 14:virgin_islands=1F1FB,1F1EE 10:ganda=1F1FA,1F1EC
  10:kraine=1F1FA,1F1E6 10:nited_arab_emirates=1F1E6,1F1EA 16:kingdom=1F1EC,1F1E7
  16:states=1F1FA,1F1F8 10:ruguay=1F1FA,1F1FE 10:zbekistan=1F1FA,1F1FF 9:vanuatu=1F1FB,1F1FA
  11:tican_city=1F1FB,1F1E6 10:enezuela=1F1FB,1F1EA 10:ietnam=1F1FB,1F1F3
  9:wallis_&_futuna=1F1FC,1F1EB 10:estern_sahara=1F1EA,1F1ED 9:yemen=1F1FE,1F1EA
  9:zambia=1F1FF,1F1F2 10:imbabwe=1F1FF,1F1FC 9:åland_islands=1F1E6,1F1FD 5:in_hole=26F3 4:s=1F38F
  3:mingo=1F9A9 3:shlight=1F526 3:t_shoe=1F97F 2:eur-de-lis=269C 5:__de__lis=269C 3:xed_biceps=1F4AA
  13:_dark_skin_tone=1F4AA,1F3FF 14:light_skin_tone=1F4AA,1F3FB 14:medium-dark_skin_tone=1F4AA,1F3FE
  21:light_skin_tone=1F4AA,1F3FC 20:_skin_tone=1F4AA,1F3FD 2:ipper=1F42C 2:oppy_disk=1F4BE
  3:wer_playing_cards=1F3B4 2:ushed=1F633 7:_face=1F633 2:ying_disc=1F94F 7:saucer=1F6F8 1:og=1F32B
  3:gy=1F301 2:lded_hands=1F64F 12:_dark_skin_tone=1F64F,1F3FF 13:light_skin_tone=1F64F,1F3FB
  13:medium-dark_skin_tone=1F64F,1F3FE 20:light_skin_tone=1F64F,1F3FC 19:_skin_tone=1F64F,1F3FD
  2:ot=1F9B6 4:ball=1F3C8 4:prints=1F463 2:rk_and_knife=1F374 14:_with_plate=1F37D
  3:tune_cookie=1F960 2:untain=26F2 8:_pen=1F58B 3:r=34,FE0F,20E3 4:-thirty=1F55F
  4:_leaf_clover=1F340 5:o’clock=1F553 2:x_face=1F98A 1:rame_with_picture=1F5BC 5:d_picture=1F5BC
  3:nce=1F1EB,1F1F7 2:ee=1F193 4:_button=1F193 3:nch_fries=1F35F 7:guiana=1F1EC,1F1EB
  7:polynesia=1F1F5,1F1EB 7:southern_territories=1F1F9,1F1EB 2:ied_shrimp=1F364 4:s=1F35F 2:og=1F438
  4:_face=1F438 3:nt-facing_baby_chick=1F425 3:wning=1F626 8:_face=2639 13:_with_open_mouth=1F626
  1:uel_pump=26FD 4:pump=26FD 2:ll_moon=1F315 9:_face=1F31D 10:with_face=1F31D 2:neral_urn=26B1
  0:gabon=1F1EC,1F1E6 2:mbia=1F1EC,1F1F2 3:e_die=1F3B2 2:rlic=1F9C4 1:ear=2699 2:m=1F48E
  3:_stone=1F48E 3:ini=264A 2:nie=1F9DE 2:orgia=1F1EC,1F1EA 2:rmany=1F1E9,1F1EA 1:hana=1F1EC,1F1ED
  2:ost=1F47B 1:ibraltar=1F1EC,1F1EE 2:ft=1F381 4:_heart=1F49D 2:raffe=1F992 3:l=1F467
  4:_dark_skin_tone=1F467,1F3FF 5:light_skin_tone=1F467,1F3FB 5:medium-dark_skin_tone=1F467,1F3FE
  12:light_skin_tone=1F467,1F3FC 11:_skin_tone=1F467,1F3FD 1:lass_of_milk=1F95B 5:es=1F453
  2:obe_showing_americas=1F30E 15:sia-australia=1F30F 14:europe-africa=1F30D 6:with_meridians=1F310
  3:ves=1F9E4 3:wing_star=1F31F 1:oal_net=1F945 3:t=1F410 2:blin=1F47A 2:ggles=1F97D 2:lf=26F3
  4:er=1F3CC 2:rilla=1F98D 1:raduation_cap=1F393 3:pes=1F347 2:eece=1F1EC,1F1F7 4:n_apple=1F34F
  6:book=1F4D7 6:circle=1F7E2 6:heart=1F49A 6:salad=1F957 7:quare=1F7E9 5:land=1F1EC,1F1F1
  3:nada=1F1EC,1F1E9 3:y_exclamation=2755 5:question=2754 2:imacing=1F62C 9:_face=1F62C 3:n=1F601
  4:ning=1F600 8:_cat_face=1F63A 17:_with_smiling_eyes=1F638 9:face=1F600 13:_with_big_eyes=1F603
  19:smiling_eyes=1F604 20:weat=1F605 9:squinting_face=1F606 2:owing_heart=1F497
  1:uadeloupe=1F1EC,1F1F5 3:m=1F1EC,1F1FA 3:rd=1F482 5:_dark_skin_tone=1F482,1F3FF
  6:light_skin_tone=1F482,1F3FB 6:medium-dark_skin_tone=1F482,1F3FE 13:light_skin_tone=1F482,1F3FC
  12:_skin_tone=1F482,1F3FD 5:sman=1F482 3:temala=1F1EC,1F1F9 2:ernsey=1F1EC,1F1EC 2:ide_dog=1F9AE
  3:nea=1F1EC,1F1F3 6:-bissau=1F1EC,1F1FC 3:tar=1F3B8 2:n=1F52B 2:yana=1F1EC,1F1FE 0:haircut=1F487
  3:ti=1F1ED,1F1F9 2:mburger=1F354 3:mer=1F528 6:_and_pick=2692 11:wrench=1F6E0 3:ster=1F439
  7:_face=1F439 2:nd=270B 4:_with_fingers_splayed=1F590 25:_dark_skin_tone=1F590,1F3FF
  26:light_skin_tone=1F590,1F3FB 26:medium-dark_skin_tone=1F590,1F3FE 33:light_skin_tone=1F590,1F3FC
  32:_skin_tone=1F590,1F3FD 4:bag=1F45C 4:shake=1F91D 3:key=1F4A9 2:tched_chick=1F425
  5:ing_chick=1F423 1:eadphone=1F3A7 9:s=1F3A7 3:r-no-evil_monkey=1F649 4:_no_evil=1F649
  4:d_&_mcdonald_islands=1F1ED,1F1F2 4:t=2764 5:_decoration=1F49F 6:eyes=1F60D 10:_cat=1F63B
  6:suit=2665 6:with_arrow=1F498 11:ribbon=1F49D 5:beat=1F493 5:pulse=1F497 5:s=2665
  3:vy_check_mark=2714 6:division_sign=2797 7:ollar_sign=1F4B2 6:exclamation_mark=2757
  6:heart_exclamation=2763 23:_mark_ornament=2763 6:large_circle=2B55 6:minus_sign=2796
  7:ultiplication_x=2716 6:plus_sign=2795 2:dgehog=1F994 2:licopter=1F681 3:m_symbol=2388
  4:et_with_white_cross=26D1 2:rb=1F33F 1:ibiscus=1F33A 2:gh-heeled_shoe=1F460 5:speed_train=1F684
  4:_brightness=1F506 5:heel=1F460 5:voltage=26A1 2:king_boot=1F97E 2:ndu_temple=1F6D5
  2:ppopotamus=1F99B 1:ocho=1F52A 2:le=1F573 2:nduras=1F1ED,1F1F3 3:ey_pot=1F36F 5:bee=1F41D
  3:g_kong_sar_china=1F1ED,1F1F0 2:rizontal_traffic_light=1F6A5 3:se=1F434 5:_face=1F434
  6:racing=1F3C7 12:_dark_skin_tone=1F3C7,1F3FF 13:light_skin_tone=1F3C7,1F3FB
  13:medium-dark_skin_tone=1F3C7,1F3FE 20:light_skin_tone=1F3C7,1F3FC 19:_skin_tone=1F3C7,1F3FD
  2:spital=1F3E5 2:t_beverage=2615 4:dog=1F32D 4:face=1F975 4:pepper=1F336 4:springs=2668 3:el=1F3E8
  3:springs=2668 2:urglass=231B 9:_done=231B 10:flowing_sand=23F3 10:not_done=23F3 3:se=1F3E0
  5:_buildings=1F3D8 6:with_garden=1F3E1 5:s=1F3D8 1:ugging_face=1F917 2:ndred_points=1F4AF
  3:gary=1F1ED,1F1FA 2:shed=1F62F 6:_face=1F62F 0:ice=1F9CA 3:_cream=1F368 4:hockey=1F3D2
  10:_stick_and_puck=1F3D2 4:skate=26F8 3:cream=1F366 3:land=1F1EE,1F1F8 1:d=1F194 2:_button=1F194
  2:eograph_advantage=1F250 1:mp=1F47F 1:nbox_tray=1F4E5 2:coming_envelope=1F4E8
  2:dex_pointing_up=261D 17:_dark_skin_tone=261D,1F3FF 18:light_skin_tone=261D,1F3FB
  18:medium-dark_skin_tone=261D,1F3FE 25:light_skin_tone=261D,1F3FC 24:_skin_tone=261D,1F3FD
  3:ia=1F1EE,1F1F3 3:onesia=1F1EE,1F1E9 2:finity=267E 3:ormation=2139 11:_desk_person=1F481
  12:source=2139 2:nocent=1F607 2:put_latin_letters=1F524 13:owercase=1F521 12:uppercase=1F520
  6:numbers=1F522 6:symbols=1F523 2:terrobang=2049 1:phone=1F4F1 1:ran=1F1EE,1F1F7 3:q=1F1EE,1F1F6
  2:eland=1F1EE,1F1EA 1:sle_of_man=1F1EE,1F1F2 2:rael=1F1EE,1F1F1 1:taly=1F1EE,1F1F9
  1:zakaya_lantern=1F3EE 0:jack-o-lantern=1F383 4:_o_lantern=1F383 2:maica=1F1EF,1F1F2 2:pan=1F5FE
  5:ese_acceptable_button=1F251 10:pplication_button=1F238 9:bargain_button=1F250 9:castle=1F3EF
  10:ongratulations_button=3297 9:discount_button=1F239 10:olls=1F38E 9:free_of_charge_button=1F21A
  9:goblin=1F47A 9:here_button=1F201 9:monthly_amount_button=1F237 9:no_vacancy_button=1F235
  11:t_free_of_charge_button=1F236 9:ogre=1F479 10:pen_for_business_button=1F23A
  9:passing_grade_button=1F234 10:ost_office=1F3E3 10:rohibited_button=1F232 9:reserved_button=1F22F
  9:secret_button=3299 11:rvice_charge_button=1F202 10:ymbol_for_beginner=1F530
  9:vacancy_button=1F233 1:eans=1F456 2:rsey=1F1EF,1F1EA 1:igsaw=1F9E9 1:oker=1F0CF
  2:rdan=1F1EF,1F1F4 2:y=1F602 3:_cat=1F639 3:stick=1F579 0:kaaba=1F54B 2:ngaroo=1F998
  2:zakhstan=1F1F0,1F1FF 1:enya=1F1F0,1F1EA 2:y=1F511 3:board=2328 3:cap_#=23,FE0F,20E3
  7:*=2A,FE0F,20E3 7:0=30,FE0F,20E3 7:1=31,FE0F,20E3 8:0=1F51F 7:2=32,FE0F,20E3 7:3=33,FE0F,20E3
  7:4=34,FE0F,20E3 7:5=35,FE0F,20E3 7:6=36,FE0F,20E3 7:7=37,FE0F,20E3 7:8=38,FE0F,20E3
  7:9=39,FE0F,20E3 7:asterisk=2A,20E3 7:digit_eight=38,20E3 13:five=35,20E3 14:our=34,20E3
  13:nine=39,20E3 13:one=31,20E3 13:seven=37,20E3 14:ix=36,20E3 13:three=33,20E3 14:wo=32,20E3
  13:zero=30,20E3 7:number_sign=23,20E3 1:ick_scooter=1F6F4 2:mono=1F458 2:ribati=1F1F0,1F1EE
  2:ss=1F48B 4:_man_man=1F468,200D,2764,FE0F,200D,1F48B,200D,1F468 7:rk=1F48B
  5:woman_man=1F469,200D,2764,FE0F,200D,1F48B,200D,1F468
  11:woman=1F469,200D,2764,FE0F,200D,1F48B,200D,1F469 4:ing=1F617 7:_cat=1F63D 11:_face=1F63D
  9:losed_eyes=1F61A 8:face=1F617 12:_with_closed_eyes=1F61A 18:smiling_eyes=1F619 8:heart=1F618
  8:smiling_eyes=1F619 2:tchen_knife=1F52A 3:e=1FA81 2:wi_fruit=1F95D 1:nife=1F52A 1:oala=1F428
  2:ko=1F201 2:sovo=1F1FD,1F1F0 1:uwait=1F1F0,1F1FC 1:yrgyzstan=1F1F0,1F1EC 0:lab_coat=1F97C
  3:el=1F3F7 2:crosse=1F94D 2:dy_beetle=1F41E 2:ntern=1F3EE 2:os=1F1F1,1F1E6 2:ptop_computer=1F4BB
  2:rge_blue_circle=1F535 11:diamond=1F537 6:orange_diamond=1F536 2:st_quarter_moon=1F317
  17:_face=1F31C 18:with_face=1F31C 5:track_button=23EE 2:tin_cross=271D 3:via=1F1F1,1F1FB
  2:ughing=1F606 1:eaf_fluttering_in_wind=1F343 4:y_green=1F96C 3:ves=1F343 2:banon=1F1F1,1F1E7
  2:dger=1F4D2 2:ft-facing_fist=1F91B 16:_dark_skin_tone=1F91B,1F3FF 17:light_skin_tone=1F91B,1F3FB
  17:medium-dark_skin_tone=1F91B,1F3FE 24:light_skin_tone=1F91B,1F3FC 23:_skin_tone=1F91B,1F3FD
  5:right_arrow=2194 4:_arrow=2B05 10:_curving_right=21AA 5:luggage=1F6C5 5:right_arrow=2194
  5:speech_bubble=1F5E8 4:wards_arrow_with_hook=21A9 2:g=1F9B5 2:mon=1F34B 2:o=264C 3:pard=1F406
  2:sotho=1F1F1,1F1F8 2:vel_slider=1F39A 1:iberia=1F1F1,1F1F7 3:ra=264E 3:ya=1F1F1,1F1FE
  2:echtenstein=1F1F1,1F1EE 2:ght_bulb=1F4A1 6:rail=1F688 6:skin_tone=1F3FB 2:nk=1F517
  4:ed_paperclips=1F587 2:on_face=1F981 2:ps=1F444 4:tick=1F484 2:thuania=1F1F1,1F1F9
  3:ter_in_bin_sign=1F6AE 2:zard=1F98E 1:lama=1F999 1:obster=1F99E 2:ck=1F512 4:_with_ink_pen=1F50F
  4:ed=1F512 6:_with_key=1F510 12:pen=1F50F 3:omotive=1F682 2:llipop=1F36D 2:op=27BF
  2:tion_bottle=1F9F4 2:ud_sound=1F50A 4:ly_crying_face=1F62D 4:speaker=1F4E2 2:ve-you_gesture=1F91F
  16:_dark_skin_tone=1F91F,1F3FF 17:light_skin_tone=1F91F,1F3FB 17:medium-dark_skin_tone=1F91F,1F3FE
  24:light_skin_tone=1F91F,1F3FC 23:_skin_tone=1F91F,1F3FD 4:_hotel=1F3E9 5:letter=1F48C
  2:w_brightness=1F505 3:er_left_ballpoint_pen=1F58A 11:crayon=1F58D 11:fountain_pen=1F58B
  11:paintbrush=1F58C 1:uggage=1F9F3 2:xembourg=1F1F1,1F1FA 1:ying_face=1F925 0:m=24C2
  1:acau_sar_china=1F1F2,1F1F4 3:edonia=1F1F2,1F1F0 2:dagascar=1F1F2,1F1EC 2:g=1F50D 3:_right=1F50E
  3:e=1F9D9 4:_dark_skin_tone=1F9D9,1F3FF 5:light_skin_tone=1F9D9,1F3FB
  5:medium-dark_skin_tone=1F9D9,1F3FE 12:light_skin_tone=1F9D9,1F3FC 11:_skin_tone=1F9D9,1F3FD
  3:net=1F9F2 4:ifying_glass_tilted_left=1F50D 24:right=1F50E 2:hjong=1F004 7:_red_dragon=1F004
  2:ilbox=1F4EB 7:_closed=1F4EA 8:with_mail=1F4EC 13:no_mail=1F4ED 2:lawi=1F1F2,1F1FC
  4:ysia=1F1F2,1F1FE 3:dives=1F1F2,1F1FB 3:e_sign=2642 3:i=1F1F2,1F1F1 3:ta=1F1F2,1F1F9 2:n=1F468
  3:_and_woman_holding_hands=1F46B 5:rtist=1F468,200D,1F3A8
  10:_dark_skin_tone=1F468,1F3FF,200D,1F3A8 11:light_skin_tone=1F468,1F3FB,200D,1F3A8
  11:medium-dark_skin_tone=1F468,1F3FE,200D,1F3A8 18:light_skin_tone=1F468,1F3FC,200D,1F3A8
  17:_skin_tone=1F468,1F3FD,200D,1F3A8 5:stronaut=1F468,200D,1F680
  13:_dark_skin_tone=1F468,1F3FF,200D,1F680 14:light_skin_tone=1F468,1F3FB,200D,1F680
  14:medium-dark_skin_tone=1F468,1F3FE,200D,1F680 21:light_skin_tone=1F468,1F3FC,200D,1F680
  20:_skin_tone=1F468,1F3FD,200D,1F680 4:biking=1F6B4,200D,2642,FE0F
  10:_dark_skin_tone=1F6B4,1F3FF,200D,2642,FE0F 11:light_skin_tone=1F6B4,1F3FB,200D,2642,FE0F
  11:medium-dark_skin_tone=1F6B4,1F3FE,200D,2642,FE0F 18:light_skin_tone=1F6B4,1F3FC,200D,2642,FE0F
  17:_skin_tone=1F6B4,1F3FD,200D,2642,FE0F 5:ouncing_ball=26F9,FE0F,200D,2642,FE0F
  17:_dark_skin_tone=26F9,1F3FF,200D,2642,FE0F 18:light_skin_tone=26F9,1F3FB,200D,2642,FE0F
  18:medium-dark_skin_tone=26F9,1F3FE,200D,2642,FE0F 25:light_skin_tone=26F9,1F3FC,200D,2642,FE0F
  24:_skin_tone=26F9,1F3FD,200D,2642,FE0F 6:wing=1F647,200D,2642,FE0F
  10:_dark_skin_tone=1F647,1F3FF,200D,2642,FE0F 11:light_skin_tone=1F647,1F3FB,200D,2642,FE0F
  11:medium-dark_skin_tone=1F647,1F3FE,200D,2642,FE0F 18:light_skin_tone=1F647,1F3FC,200D,2642,FE0F
  17:_skin_tone=1F647,1F3FD,200D,2642,FE0F 4:cartwheeling=1F938,200D,2642,FE0F
  16:_dark_skin_tone=1F938,1F3FF,200D,2642,FE0F 17:light_skin_tone=1F938,1F3FB,200D,2642,FE0F
  17:medium-dark_skin_tone=1F938,1F3FE,200D,2642,FE0F 24:light_skin_tone=1F938,1F3FC,200D,2642,FE0F
  23:_skin_tone=1F938,1F3FD,200D,2642,FE0F 5:limbing=1F9D7,200D,2642,FE0F
  12:_dark_skin_tone=1F9D7,1F3FF,200D,2642,FE0F 13:light_skin_tone=1F9D7,1F3FB,200D,2642,FE0F
  13:medium-dark_skin_tone=1F9D7,1F3FE,200D,2642,FE0F 20:light_skin_tone=1F9D7,1F3FC,200D,2642,FE0F
  19:_skin_tone=1F9D7,1F3FD,200D,2642,FE0F 5:onstruction_worker=1F477,200D,2642,FE0F
  23:_dark_skin_tone=1F477,1F3FF,200D,2642,FE0F 24:light_skin_tone=1F477,1F3FB,200D,2642,FE0F
  24:medium-dark_skin_tone=1F477,1F3FE,200D,2642,FE0F 31:light_skin_tone=1F477,1F3FC,200D,2642,FE0F
  30:_skin_tone=1F477,1F3FD,200D,2642,FE0F 6:ok=1F468,200D,1F373
  8:_dark_skin_tone=1F468,1F3FF,200D,1F373 9:light_skin_tone=1F468,1F3FB,200D,1F373
  9:medium-dark_skin_tone=1F468,1F3FE,200D,1F373 16:light_skin_tone=1F468,1F3FC,200D,1F373
  15:_skin_tone=1F468,1F3FD,200D,1F373 4:dancing=1F57A 11:_dark_skin_tone=1F57A,1F3FF
  12:light_skin_tone=1F57A,1F3FB 12:medium-dark_skin_tone=1F57A,1F3FE 19:light_skin_tone=1F57A,1F3FC
  18:_skin_tone=1F57A,1F3FD 6:rk_skin_tone=1F468,1F3FF 5:etective=1F575,FE0F,200D,2642,FE0F
  13:_dark_skin_tone=1F575,1F3FF,200D,2642,FE0F 14:light_skin_tone=1F575,1F3FB,200D,2642,FE0F
  14:medium-dark_skin_tone=1F575,1F3FE,200D,2642,FE0F 21:light_skin_tone=1F575,1F3FC,200D,2642,FE0F
  20:_skin_tone=1F575,1F3FD,200D,2642,FE0F 4:elf=1F9DD,200D,2642,FE0F
  7:_dark_skin_tone=1F9DD,1F3FF,200D,2642,FE0F 8:light_skin_tone=1F9DD,1F3FB,200D,2642,FE0F
  8:medium-dark_skin_tone=1F9DD,1F3FE,200D,2642,FE0F 15:light_skin_tone=1F9DD,1F3FC,200D,2642,FE0F
  14:_skin_tone=1F9DD,1F3FD,200D,2642,FE0F 4:facepalming=1F926,200D,2642,FE0F
  15:_dark_skin_tone=1F926,1F3FF,200D,2642,FE0F 16:light_skin_tone=1F926,1F3FB,200D,2642,FE0F
  16:medium-dark_skin_tone=1F926,1F3FE,200D,2642,FE0F 23:light_skin_tone=1F926,1F3FC,200D,2642,FE0F
  22:_skin_tone=1F926,1F3FD,200D,2642,FE0F 7:tory_worker=1F468,200D,1F3ED
  18:_dark_skin_tone=1F468,1F3FF,200D,1F3ED 19:light_skin_tone=1F468,1F3FB,200D,1F3ED
  19:medium-dark_skin_tone=1F468,1F3FE,200D,1F3ED 26:light_skin_tone=1F468,1F3FC,200D,1F3ED
  25:_skin_tone=1F468,1F3FD,200D,1F3ED 6:iry=1F9DA,200D,2642,FE0F
  9:_dark_skin_tone=1F9DA,1F3FF,200D,2642,FE0F 10:light_skin_tone=1F9DA,1F3FB,200D,2642,FE0F
  10:medium-dark_skin_tone=1F9DA,1F3FE,200D,2642,FE0F 17:light_skin_tone=1F9DA,1F3FC,200D,2642,FE0F
  16:_skin_tone=1F9DA,1F3FD,200D,2642,FE0F 6:rmer=1F468,200D,1F33E
  10:_dark_skin_tone=1F468,1F3FF,200D,1F33E 11:light_skin_tone=1F468,1F3FB,200D,1F33E
  11:medium-dark_skin_tone=1F468,1F3FE,200D,1F33E 18:light_skin_tone=1F468,1F3FC,200D,1F33E
  17:_skin_tone=1F468,1F3FD,200D,1F33E 5:irefighter=1F468,200D,1F692
  15:_dark_skin_tone=1F468,1F3FF,200D,1F692 16:light_skin_tone=1F468,1F3FB,200D,1F692
  16:medium-dark_skin_tone=1F468,1F3FE,200D,1F692 23:light_skin_tone=1F468,1F3FC,200D,1F692
  22:_skin_tone=1F468,1F3FD,200D,1F692 5:rowning=1F64D,200D,2642,FE0F
  12:_dark_skin_tone=1F64D,1F3FF,200D,2642,FE0F 13:light_skin_tone=1F64D,1F3FB,200D,2642,FE0F
  13:medium-dark_skin_tone=1F64D,1F3FE,200D,2642,FE0F 20:light_skin_tone=1F64D,1F3FC,200D,2642,FE0F
  19:_skin_tone=1F64D,1F3FD,200D,2642,FE0F 4:genie=1F9DE,200D,2642,FE0F
  6:sturing_no=1F645,200D,2642,FE0F 16:_dark_skin_tone=1F645,1F3FF,200D,2642,FE0F
  17:light_skin_tone=1F645,1F3FB,200D,2642,FE0F 17:medium-dark_skin_tone=1F645,1F3FE,200D,2642,FE0F
  24:light_skin_tone=1F645,1F3FC,200D,2642,FE0F 23:_skin_tone=1F645,1F3FD,200D,2642,FE0F
  14:ok=1F646,200D,2642,FE0F 16:_dark_skin_tone=1F646,1F3FF,200D,2642,FE0F
  17:light_skin_tone=1F646,1F3FB,200D,2642,FE0F 17:medium-dark_skin_tone=1F646,1F3FE,200D,2642,FE0F
  24:light_skin_tone=1F646,1F3FC,200D,2642,FE0F 23:_skin_tone=1F646,1F3FD,200D,2642,FE0F
  6:tting_haircut=1F487,200D,2642,FE0F 19:_dark_skin_tone=1F487,1F3FF,200D,2642,FE0F
  20:light_skin_tone=1F487,1F3FB,200D,2642,FE0F 20:medium-dark_skin_tone=1F487,1F3FE,200D,2642,FE0F
  27:light_skin_tone=1F487,1F3FC,200D,2642,FE0F 26:_skin_tone=1F487,1F3FD,200D,2642,FE0F
  12:massage=1F486,200D,2642,FE0F 19:_dark_skin_tone=1F486,1F3FF,200D,2642,FE0F
  20:light_skin_tone=1F486,1F3FB,200D,2642,FE0F 20:medium-dark_skin_tone=1F486,1F3FE,200D,2642,FE0F
  27:light_skin_tone=1F486,1F3FC,200D,2642,FE0F 26:_skin_tone=1F486,1F3FD,200D,2642,FE0F
  5:olfing=1F3CC,FE0F,200D,2642,FE0F 11:_dark_skin_tone=1F3CC,1F3FF,200D,2642,FE0F
  12:light_skin_tone=1F3CC,1F3FB,200D,2642,FE0F 12:medium-dark_skin_tone=1F3CC,1F3FE,200D,2642,FE0F
  19:light_skin_tone=1F3CC,1F3FC,200D,2642,FE0F 18:_skin_tone=1F3CC,1F3FD,200D,2642,FE0F
  5:uard=1F482,200D,2642,FE0F 9:_dark_skin_tone=1F482,1F3FF,200D,2642,FE0F
  10:light_skin_tone=1F482,1F3FB,200D,2642,FE0F 10:medium-dark_skin_tone=1F482,1F3FE,200D,2642,FE0F
  17:light_skin_tone=1F482,1F3FC,200D,2642,FE0F 16:_skin_tone=1F482,1F3FD,200D,2642,FE0F
  4:health_worker=1F468,200D,2695,FE0F 17:_dark_skin_tone=1F468,1F3FF,200D,2695,FE0F
  18:light_skin_tone=1F468,1F3FB,200D,2695,FE0F 18:medium-dark_skin_tone=1F468,1F3FE,200D,2695,FE0F
  25:light_skin_tone=1F468,1F3FC,200D,2695,FE0F 24:_skin_tone=1F468,1F3FD,200D,2695,FE0F
  4:in_business_suit_levitating=1F574 7:lotus_position=1F9D8,200D,2642,FE0F
  21:_dark_skin_tone=1F9D8,1F3FF,200D,2642,FE0F 22:light_skin_tone=1F9D8,1F3FB,200D,2642,FE0F
  22:medium-dark_skin_tone=1F9D8,1F3FE,200D,2642,FE0F 29:light_skin_tone=1F9D8,1F3FC,200D,2642,FE0F
  28:_skin_tone=1F9D8,1F3FD,200D,2642,FE0F 7:manual_wheelchair=1F468,200D,1F9BD
  8:otorized_wheelchair=1F468,200D,1F9BC 7:steamy_room=1F9D6,200D,2642,FE0F
  18:_dark_skin_tone=1F9D6,1F3FF,200D,2642,FE0F 19:light_skin_tone=1F9D6,1F3FB,200D,2642,FE0F
  19:medium-dark_skin_tone=1F9D6,1F3FE,200D,2642,FE0F 26:light_skin_tone=1F9D6,1F3FC,200D,2642,FE0F
  25:_skin_tone=1F9D6,1F3FD,200D,2642,FE0F 8:uit_levitating=1F574 22:_dark_skin_tone=1F574,1F3FF
  23:light_skin_tone=1F574,1F3FB 23:medium-dark_skin_tone=1F574,1F3FE 30:light_skin_tone=1F574,1F3FC
  29:_skin_tone=1F574,1F3FD 7:tuxedo=1F935 13:_dark_skin_tone=1F935,1F3FF
  14:light_skin_tone=1F935,1F3FB 14:medium-dark_skin_tone=1F935,1F3FE 21:light_skin_tone=1F935,1F3FC
  20:_skin_tone=1F935,1F3FD 4:judge=1F468,200D,2696,FE0F
  9:_dark_skin_tone=1F468,1F3FF,200D,2696,FE0F 10:light_skin_tone=1F468,1F3FB,200D,2696,FE0F
  10:medium-dark_skin_tone=1F468,1F3FE,200D,2696,FE0F 17:light_skin_tone=1F468,1F3FC,200D,2696,FE0F
  16:_skin_tone=1F468,1F3FD,200D,2696,FE0F 6:ggling=1F939,200D,2642,FE0F
  12:_dark_skin_tone=1F939,1F3FF,200D,2642,FE0F 13:light_skin_tone=1F939,1F3FB,200D,2642,FE0F
  13:medium-dark_skin_tone=1F939,1F3FE,200D,2642,FE0F 20:light_skin_tone=1F939,1F3FC,200D,2642,FE0F
  19:_skin_tone=1F939,1F3FD,200D,2642,FE0F 4:lifting_weights=1F3CB,FE0F,200D,2642,FE0F
  19:_dark_skin_tone=1F3CB,1F3FF,200D,2642,FE0F 20:light_skin_tone=1F3CB,1F3FB,200D,2642,FE0F
  20:medium-dark_skin_tone=1F3CB,1F3FE,200D,2642,FE0F 27:light_skin_tone=1F3CB,1F3FC,200D,2642,FE0F
  26:_skin_tone=1F3CB,1F3FD,200D,2642,FE0F 6:ght_skin_tone=1F468,1F3FB 4:mage=1F9D9,200D,2642,FE0F
  8:_dark_skin_tone=1F9D9,1F3FF,200D,2642,FE0F 9:light_skin_tone=1F9D9,1F3FB,200D,2642,FE0F
  9:medium-dark_skin_tone=1F9D9,1F3FE,200D,2642,FE0F 16:light_skin_tone=1F9D9,1F3FC,200D,2642,FE0F
  15:_skin_tone=1F9D9,1F3FD,200D,2642,FE0F 5:echanic=1F468,200D,1F527
  12:_dark_skin_tone=1F468,1F3FF,200D,1F527 13:light_skin_tone=1F468,1F3FB,200D,1F527
  13:medium-dark_skin_tone=1F468,1F3FE,200D,1F527 20:light_skin_tone=1F468,1F3FC,200D,1F527
  19:_skin_tone=1F468,1F3FD,200D,1F527 6:dium-dark_skin_tone=1F468,1F3FE
  11:light_skin_tone=1F468,1F3FC 10:_skin_tone=1F468,1F3FD 5:ountain_biking=1F6B5,200D,2642,FE0F
  19:_dark_skin_tone=1F6B5,1F3FF,200D,2642,FE0F 20:light_skin_tone=1F6B5,1F3FB,200D,2642,FE0F
  20:medium-dark_skin_tone=1F6B5,1F3FE,200D,2642,FE0F 27:light_skin_tone=1F6B5,1F3FC,200D,2642,FE0F
  26:_skin_tone=1F6B5,1F3FD,200D,2642,FE0F 4:office_worker=1F468,200D,1F4BC
  17:_dark_skin_tone=1F468,1F3FF,200D,1F4BC 18:light_skin_tone=1F468,1F3FB,200D,1F4BC
  18:medium-dark_skin_tone=1F468,1F3FE,200D,1F4BC 25:light_skin_tone=1F468,1F3FC,200D,1F4BC
  24:_skin_tone=1F468,1F3FD,200D,1F4BC 4:pilot=1F468,200D,2708,FE0F
  9:_dark_skin_tone=1F468,1F3FF,200D,2708,FE0F 10:light_skin_tone=1F468,1F3FB,200D,2708,FE0F
  10:medium-dark_skin_tone=1F468,1F3FE,200D,2708,FE0F 17:light_skin_tone=1F468,1F3FC,200D,2708,FE0F
  16:_skin_tone=1F468,1F3FD,200D,2708,FE0F 5:laying_handball=1F93E,200D,2642,FE0F
  20:_dark_skin_tone=1F93E,1F3FF,200D,2642,FE0F 21:light_skin_tone=1F93E,1F3FB,200D,2642,FE0F
  21:medium-dark_skin_tone=1F93E,1F3FE,200D,2642,FE0F 28:light_skin_tone=1F93E,1F3FC,200D,2642,FE0F
  27:_skin_tone=1F93E,1F3FD,200D,2642,FE0F 12:water_polo=1F93D,200D,2642,FE0F
  22:_dark_skin_tone=1F93D,1F3FF,200D,2642,FE0F 23:light_skin_tone=1F93D,1F3FB,200D,2642,FE0F
  23:medium-dark_skin_tone=1F93D,1F3FE,200D,2642,FE0F 30:light_skin_tone=1F93D,1F3FC,200D,2642,FE0F
  29:_skin_tone=1F93D,1F3FD,200D,2642,FE0F 5:olice_officer=1F46E,200D,2642,FE0F
  18:_dark_skin_tone=1F46E,1F3FF,200D,2642,FE0F 19:light_skin_tone=1F46E,1F3FB,200D,2642,FE0F
  19:medium-dark_skin_tone=1F46E,1F3FE,200D,2642,FE0F 26:light_skin_tone=1F46E,1F3FC,200D,2642,FE0F
  25:_skin_tone=1F46E,1F3FD,200D,2642,FE0F 6:uting=1F64E,200D,2642,FE0F
  11:_dark_skin_tone=1F64E,1F3FF,200D,2642,FE0F 12:light_skin_tone=1F64E,1F3FB,200D,2642,FE0F
  12:medium-dark_skin_tone=1F64E,1F3FE,200D,2642,FE0F 19:light_skin_tone=1F64E,1F3FC,200D,2642,FE0F
  18:_skin_tone=1F64E,1F3FD,200D,2642,FE0F 4:raising_hand=1F64B,200D,2642,FE0F
  16:_dark_skin_tone=1F64B,1F3FF,200D,2642,FE0F 17:light_skin_tone=1F64B,1F3FB,200D,2642,FE0F
  17:medium-dark_skin_tone=1F64B,1F3FE,200D,2642,FE0F 24:light_skin_tone=1F64B,1F3FC,200D,2642,FE0F
  23:_skin_tone=1F64B,1F3FD,200D,2642,FE0F 5:owing_boat=1F6A3,200D,2642,FE0F
  15:_dark_skin_tone=1F6A3,1F3FF,200D,2642,FE0F 16:light_skin_tone=1F6A3,1F3FB,200D,2642,FE0F
  16:medium-dark_skin_tone=1F6A3,1F3FE,200D,2642,FE0F 23:light_skin_tone=1F6A3,1F3FC,200D,2642,FE0F
  22:_skin_tone=1F6A3,1F3FD,200D,2642,FE0F 5:unning=1F3C3,200D,2642,FE0F
  11:_dark_skin_tone=1F3C3,1F3FF,200D,2642,FE0F 12:light_skin_tone=1F3C3,1F3FB,200D,2642,FE0F
  12:medium-dark_skin_tone=1F3C3,1F3FE,200D,2642,FE0F 19:light_skin_tone=1F3C3,1F3FC,200D,2642,FE0F
  18:_skin_tone=1F3C3,1F3FD,200D,2642,FE0F 4:scientist=1F468,200D,1F52C
  13:_dark_skin_tone=1F468,1F3FF,200D,1F52C 14:light_skin_tone=1F468,1F3FB,200D,1F52C
  14:medium-dark_skin_tone=1F468,1F3FE,200D,1F52C 21:light_skin_tone=1F468,1F3FC,200D,1F52C
  20:_skin_tone=1F468,1F3FD,200D,1F52C 5:hrugging=1F937,200D,2642,FE0F
  13:_dark_skin_tone=1F937,1F3FF,200D,2642,FE0F 14:light_skin_tone=1F937,1F3FB,200D,2642,FE0F
  14:medium-dark_skin_tone=1F937,1F3FE,200D,2642,FE0F 21:light_skin_tone=1F937,1F3FC,200D,2642,FE0F
  20:_skin_tone=1F937,1F3FD,200D,2642,FE0F 5:inger=1F468,200D,1F3A4
  10:_dark_skin_tone=1F468,1F3FF,200D,1F3A4 11:light_skin_tone=1F468,1F3FB,200D,1F3A4
  11:medium-dark_skin_tone=1F468,1F3FE,200D,1F3A4 18:light_skin_tone=1F468,1F3FC,200D,1F3A4
  17:_skin_tone=1F468,1F3FD,200D,1F3A4 5:tudent=1F468,200D,1F393
  11:_dark_skin_tone=1F468,1F3FF,200D,1F393 12:light_skin_tone=1F468,1F3FB,200D,1F393
  12:medium-dark_skin_tone=1F468,1F3FE,200D,1F393 19:light_skin_tone=1F468,1F3FC,200D,1F393
  18:_skin_tone=1F468,1F3FD,200D,1F393 5:urfing=1F3C4,200D,2642,FE0F
  11:_dark_skin_tone=1F3C4,1F3FF,200D,2642,FE0F 12:light_skin_tone=1F3C4,1F3FB,200D,2642,FE0F
  12:medium-dark_skin_tone=1F3C4,1F3FE,200D,2642,FE0F 19:light_skin_tone=1F3C4,1F3FC,200D,2642,FE0F
  18:_skin_tone=1F3C4,1F3FD,200D,2642,FE0F 5:wimming=1F3CA,200D,2642,FE0F
  12:_dark_skin_tone=1F3CA,1F3FF,200D,2642,FE0F 13:light_skin_tone=1F3CA,1F3FB,200D,2642,FE0F
  13:medium-dark_skin_tone=1F3CA,1F3FE,200D,2642,FE0F 20:light_skin_tone=1F3CA,1F3FC,200D,2642,FE0F
  19:_skin_tone=1F3CA,1F3FD,200D,2642,FE0F 4:teacher=1F468,200D,1F3EB
  11:_dark_skin_tone=1F468,1F3FF,200D,1F3EB 12:light_skin_tone=1F468,1F3FB,200D,1F3EB
  12:medium-dark_skin_tone=1F468,1F3FE,200D,1F3EB 19:light_skin_tone=1F468,1F3FC,200D,1F3EB
  18:_skin_tone=1F468,1F3FD,200D,1F3EB 6:chnologist=1F468,200D,1F4BB
  16:_dark_skin_tone=1F468,1F3FF,200D,1F4BB 17:light_skin_tone=1F468,1F3FB,200D,1F4BB
  17:medium-dark_skin_tone=1F468,1F3FE,200D,1F4BB 24:light_skin_tone=1F468,1F3FC,200D,1F4BB
  23:_skin_tone=1F468,1F3FD,200D,1F4BB 5:ipping_hand=1F481,200D,2642,FE0F
  16:_dark_skin_tone=1F481,1F3FF,200D,2642,FE0F 17:light_skin_tone=1F481,1F3FB,200D,2642,FE0F
  17:medium-dark_skin_tone=1F481,1F3FE,200D,2642,FE0F 24:light_skin_tone=1F481,1F3FC,200D,2642,FE0F
  23:_skin_tone=1F481,1F3FD,200D,2642,FE0F 4:vampire=1F9DB,200D,2642,FE0F
  11:_dark_skin_tone=1F9DB,1F3FF,200D,2642,FE0F 12:light_skin_tone=1F9DB,1F3FB,200D,2642,FE0F
  12:medium-dark_skin_tone=1F9DB,1F3FE,200D,2642,FE0F 19:light_skin_tone=1F9DB,1F3FC,200D,2642,FE0F
  18:_skin_tone=1F9DB,1F3FD,200D,2642,FE0F 4:walking=1F6B6,200D,2642,FE0F
  11:_dark_skin_tone=1F6B6,1F3FF,200D,2642,FE0F 12:light_skin_tone=1F6B6,1F3FB,200D,2642,FE0F
  12:medium-dark_skin_tone=1F6B6,1F3FE,200D,2642,FE0F 19:light_skin_tone=1F6B6,1F3FC,200D,2642,FE0F
  18:_skin_tone=1F6B6,1F3FD,200D,2642,FE0F 5:earing_turban=1F473,200D,2642,FE0F
  18:_dark_skin_tone=1F473,1F3FF,200D,2642,FE0F 19:light_skin_tone=1F473,1F3FB,200D,2642,FE0F
  19:medium-dark_skin_tone=1F473,1F3FE,200D,2642,FE0F 26:light_skin_tone=1F473,1F3FC,200D,2642,FE0F
  25:_skin_tone=1F473,1F3FD,200D,2642,FE0F 5:ith_chinese_cap=1F472 20:_dark_skin_tone=1F472,1F3FF
  21:light_skin_tone=1F472,1F3FB 21:medium-dark_skin_tone=1F472,1F3FE 28:light_skin_tone=1F472,1F3FC
  27:_skin_tone=1F472,1F3FD 9:gua_pi_mao=1F472 9:probing_cane=1F468,200D,1F9AF 9:turban=1F473
  4:zombie=1F9DF,200D,2642,FE0F 3:go=1F96D 3:s_shoe=1F45E 3:telpiece_clock=1F570
  3:ual_wheelchair=1F9BD 3:’s_shoe=1F45E 2:p_of_japan=1F5FE 3:le_leaf=1F341
  2:rshall_islands=1F1F2,1F1ED 3:tial_arts_uniform=1F94B 5:nique=1F1F2,1F1F6 2:sk=1F637 3:sage=1F486
  2:te=1F9C9 2:uritania=1F1F2,1F1F7 6:ius=1F1F2,1F1FA 2:yotte=1F1FE,1F1F9 1:eat_on_bone=1F356
  2:chanical_arm=1F9BE 11:leg=1F9BF 2:dical_symbol=2695 4:um_dark_skin_tone=1F3FE
  7:light_skin_tone=1F3FC 7:skin_tone=1F3FD 2:ga=1F4E3 4:phone=1F4E3 2:lon=1F348 2:mo=1F4DD
  2:n_with_bunny_ears=1F46F,200D,2642,FE0F 5:restling=1F93C,200D,2642,FE0F 3:orah=1F54E
  7:_with_nine_branches=1F54E 3:s=1F6B9 3:’s_room=1F6B9 2:rmaid=1F9DC,200D,2640,FE0F
  7:_dark_skin_tone=1F9DC,1F3FF,200D,2640,FE0F 8:light_skin_tone=1F9DC,1F3FB,200D,2640,FE0F
  8:medium-dark_skin_tone=1F9DC,1F3FE,200D,2640,FE0F 15:light_skin_tone=1F9DC,1F3FC,200D,2640,FE0F
  14:_skin_tone=1F9DC,1F3FD,200D,2640,FE0F 5:n=1F9DC,200D,2642,FE0F
  6:_dark_skin_tone=1F9DC,1F3FF,200D,2642,FE0F 7:light_skin_tone=1F9DC,1F3FB,200D,2642,FE0F
  7:medium-dark_skin_tone=1F9DC,1F3FE,200D,2642,FE0F 14:light_skin_tone=1F9DC,1F3FC,200D,2642,FE0F
  13:_skin_tone=1F9DC,1F3FD,200D,2642,FE0F 3:person=1F9DC 9:_dark_skin_tone=1F9DC,1F3FF
  10:light_skin_tone=1F9DC,1F3FB 10:medium-dark_skin_tone=1F9DC,1F3FE 17:light_skin_tone=1F9DC,1F3FC
  16:_skin_tone=1F9DC,1F3FD 2:tro=1F687 2:xico=1F1F2,1F1FD 1:icrobe=1F9A0 5:nesia=1F1EB,1F1F2
  5:phone=1F3A4 5:scope=1F52C 2:ddle_finger=1F595 13:_dark_skin_tone=1F595,1F3FF
  14:light_skin_tone=1F595,1F3FB 14:medium-dark_skin_tone=1F595,1F3FE 21:light_skin_tone=1F595,1F3FC
  20:_skin_tone=1F595,1F3FD 2:litary_medal=1F396 3:ky_way=1F30C 2:nibus=1F690 4:disc=1F4BD
  1:oai=1F5FF 2:bile_phone=1F4F1 12:_off=1F4F4 13:with_arrow=1F4F2 2:ldova=1F1F2,1F1E9
  2:naco=1F1F2,1F1E8 3:ey-mouth_face=1F911 5:__mouth_face=1F911 6:bag=1F4B0 6:with_wings=1F4B8
  5:bag=1F4B0 3:golia=1F1F2,1F1F3 3:key=1F412 6:_face=1F435 3:orail=1F69D 3:tenegro=1F1F2,1F1EA
  4:serrat=1F1F2,1F1F8 2:on=1F314 4:_cake=1F96E 5:viewing_ceremony=1F391 2:rocco=1F1F2,1F1E6
  3:tar_board=1F393 2:sque=1F54C 5:ito=1F99F 2:tor_boat=1F6E5 6:scooter=1F6F5 5:cycle=1F3CD
  5:ized_wheelchair=1F9BC 5:way=1F6E3 2:unt_fuji=1F5FB 5:ain=26F0 8:_bicyclist=1F6B5
  9:cableway=1F6A0 9:railway=1F69E 3:se=1F42D 5:2=1F401 5:_face=1F42D 3:th=1F444 2:vie_camera=1F3A5
  2:yai=1F5FF 2:zambique=1F1F2,1F1FF 1:rs._claus=1F936 10:_dark_skin_tone=1F936,1F3FF
  11:light_skin_tone=1F936,1F3FB 11:medium-dark_skin_tone=1F936,1F3FE 18:light_skin_tone=1F936,1F3FC
  17:_skin_tone=1F936,1F3FD 1:uscle=1F4AA 3:hroom=1F344 3:ical_keyboard=1F3B9 8:note=1F3B5
  12:s=1F3B6 8:score=1F3BC 2:te=1F507 4:d_speaker=1F507 1:yanmar_(burma)=1F1F2,1F1F2
  0:nail_care=1F485 5:polish=1F485 11:_dark_skin_tone=1F485,1F3FF 12:light_skin_tone=1F485,1F3FB
  12:medium-dark_skin_tone=1F485,1F3FE 19:light_skin_tone=1F485,1F3FC 18:_skin_tone=1F485,1F3FD
  2:me_badge=1F4DB 3:ibia=1F1F3,1F1E6 2:tional_park=1F3DE 2:uru=1F1F3,1F1F7 3:seated_face=1F922
  2:zar_amulet=1F9FF 1:ecktie=1F454 2:gative_squared_cross_mark=274E 2:pal=1F1F3,1F1F5
  2:rd_face=1F913 2:therlands=1F1F3,1F1F1 2:utral_face=1F610 2:w=1F195 3:_button=1F195
  4:caledonia=1F1F3,1F1E8 4:moon=1F311 8:_face=1F31A 9:with_face=1F31A 4:zealand=1F1F3,1F1FF
  3:spaper=1F4F0 2:xt_track_button=23ED 1:g=1F196 2:_button=1F196 1:icaragua=1F1F3,1F1EE
  2:ger=1F1F3,1F1EA 5:ia=1F1F3,1F1EC 3:ht_with_stars=1F303 2:ne=39,FE0F,20E3 4:-thirty=1F564
  4:_o’clock=1F558 2:ue=1F1F3,1F1FA 1:o_bell=1F515 4:icycles=1F6B3 3:entry=26D4 8:_sign=1F6AB
  3:good=1F645 3:littering=1F6AF 3:mobile_phones=1F4F5 5:uth=1F636 3:one_under_eighteen=1F51E
  3:pedestrians=1F6B7 3:smoking=1F6AD 2:n-potable_water=1F6B1 3:__potable_water=1F6B1
  2:rfolk_island=1F1F3,1F1EB 3:th_korea=1F1F0,1F1F5 5:ern_mariana_islands=1F1F2,1F1F5
  3:way=1F1F3,1F1F4 2:se=1F443 4:_dark_skin_tone=1F443,1F3FF 5:light_skin_tone=1F443,1F3FB
  5:medium-dark_skin_tone=1F443,1F3FE 12:light_skin_tone=1F443,1F3FC 11:_skin_tone=1F443,1F3FD
  2:tebook=1F4D3 8:_with_decorative_cover=1F4D4 4:s=1F3B6 1:ut_and_bolt=1F529 0:o=2B55 1:2=1F17E
  1:_button_(blood_type)=1F17E 1:cean=1F30A 2:topus=1F419 1:den=1F362 1:ffice=1F3E2
  6:_building=1F3E2 1:gre=1F479 1:il_drum=1F6E2 1:k=1F197 2:_button=1F197 3:hand=1F44C
  7:_dark_skin_tone=1F44C,1F3FF 8:light_skin_tone=1F44C,1F3FB 8:medium-dark_skin_tone=1F44C,1F3FE
  15:light_skin_tone=1F44C,1F3FC 14:_skin_tone=1F44C,1F3FD 3:woman=1F646 1:ld_key=1F5DD 4:man=1F474
  7:_dark_skin_tone=1F474,1F3FF 8:light_skin_tone=1F474,1F3FB 8:medium-dark_skin_tone=1F474,1F3FE
  15:light_skin_tone=1F474,1F3FC 14:_skin_tone=1F474,1F3FD 4:woman=1F475
  9:_dark_skin_tone=1F475,1F3FF 10:light_skin_tone=1F475,1F3FB 10:medium-dark_skin_tone=1F475,1F3FE
  17:light_skin_tone=1F475,1F3FC 16:_skin_tone=1F475,1F3FD 3:er_adult=1F9D3
  11:_dark_skin_tone=1F9D3,1F3FF 12:light_skin_tone=1F9D3,1F3FB 12:medium-dark_skin_tone=1F9D3,1F3FE
  19:light_skin_tone=1F9D3,1F3FC 18:_skin_tone=1F9D3,1F3FD 6:man=1F474 6:woman=1F475 1:m=1F549
  2:_symbol=1F549 2:an=1F1F4,1F1F2 1:n=1F51B 2:!_arrow=1F51B 2:coming_automobile=1F698 9:bus=1F68D
  9:fist=1F44A 13:_dark_skin_tone=1F44A,1F3FF 14:light_skin_tone=1F44A,1F3FB
  14:medium-dark_skin_tone=1F44A,1F3FE 21:light_skin_tone=1F44A,1F3FC 20:_skin_tone=1F44A,1F3FD
  9:police_car=1F694 9:taxi=1F696 2:e=31,FE0F,20E3 3:-piece_swimsuit=1FA71 4:thirty=1F55C
  3:_o’clock=1F550 2:ion=1F9C5 1:pen_book=1F4D6 5:file_folder=1F4C2 5:hands=1F450
  10:_dark_skin_tone=1F450,1F3FF 11:light_skin_tone=1F450,1F3FB 11:medium-dark_skin_tone=1F450,1F3FE
  18:light_skin_tone=1F450,1F3FC 17:_skin_tone=1F450,1F3FD 5:mailbox_with_lowered_flag=1F4ED
  18:raised_flag=1F4EC 6:outh=1F62E 2:hiuchus=26CE 2:tical_disk=1F4BF 1:range_book=1F4D9
  7:circle=1F7E0 7:heart=1F9E1 7:square=1F7E7 5:utan=1F9A7 2:thodox_cross=2626 1:tter=1F9A6
  1:utbox_tray=1F4E4 1:wl=1F989 1:x=1F402 1:yster=1F9AA 0:p_button=1F17F 1:ackage=1F4E6
  2:ge_facing_up=1F4C4 5:with_curl=1F4C3 4:r=1F4DF 2:intbrush=1F58C 2:kistan=1F1F5,1F1F0
  2:lau=1F1F5,1F1FC 3:estinian_territories=1F1F5,1F1F8 3:m_tree=1F334 4:s_up_together=1F932
  17:_dark_skin_tone=1F932,1F3FF 18:light_skin_tone=1F932,1F3FB 18:medium-dark_skin_tone=1F932,1F3FE
  25:light_skin_tone=1F932,1F3FC 24:_skin_tone=1F932,1F3FD 2:nama=1F1F5,1F1E6 3:cakes=1F95E
  3:da_face=1F43C 2:perclip=1F4CE 3:ua_new_guinea=1F1F5,1F1EC 2:raguay=1F1F5,1F1FE 3:king=1F17F
  3:rot=1F99C 3:t_alternation_mark=303D 4:ly_sunny=26C5 4:y_popper=1F389 5:ing_face=1F973
  2:ssenger_ship=1F6F3 4:port_control=1F6C2 2:use_button=23F8 2:w_prints=1F43E 1:eace_symbol=262E
  4:h=1F351 4:ock=1F99A 3:nuts=1F95C 3:r=1F350 2:n=1F58A 3:cil=1F4DD 6:2=270F 3:guin=1F427
  3:sive=1F614 7:_face=1F614 2:ople_holding_hands=1F9D1,200D,1F91D,200D,1F9D1
  7:with_bunny_ears=1F46F 8:restling=1F93C 2:rforming_arts=1F3AD 3:severe=1F623 8:ing_face=1F623
  4:on_biking=1F6B4 13:_dark_skin_tone=1F6B4,1F3FF 14:light_skin_tone=1F6B4,1F3FB
  14:medium-dark_skin_tone=1F6B4,1F3FE 21:light_skin_tone=1F6B4,1F3FC 20:_skin_tone=1F6B4,1F3FD
  8:ouncing_ball=26F9 20:_dark_skin_tone=26F9,1F3FF 21:light_skin_tone=26F9,1F3FB
  21:medium-dark_skin_tone=26F9,1F3FE 28:light_skin_tone=26F9,1F3FC 27:_skin_tone=26F9,1F3FD
  9:wing=1F647 13:_dark_skin_tone=1F647,1F3FF 14:light_skin_tone=1F647,1F3FB
  14:medium-dark_skin_tone=1F647,1F3FE 21:light_skin_tone=1F647,1F3FC 20:_skin_tone=1F647,1F3FD
  7:cartwheeling=1F938 19:_dark_skin_tone=1F938,1F3FF 20:light_skin_tone=1F938,1F3FB
  20:medium-dark_skin_tone=1F938,1F3FE 27:light_skin_tone=1F938,1F3FC 26:_skin_tone=1F938,1F3FD
  8:limbing=1F9D7 15:_dark_skin_tone=1F9D7,1F3FF 16:light_skin_tone=1F9D7,1F3FB
  16:medium-dark_skin_tone=1F9D7,1F3FE 23:light_skin_tone=1F9D7,1F3FC 22:_skin_tone=1F9D7,1F3FD
  7:facepalming=1F926 18:_dark_skin_tone=1F926,1F3FF 19:light_skin_tone=1F926,1F3FB
  19:medium-dark_skin_tone=1F926,1F3FE 26:light_skin_tone=1F926,1F3FC 25:_skin_tone=1F926,1F3FD
  8:encing=1F93A 8:rowning=1F64D 15:_dark_skin_tone=1F64D,1F3FF 16:light_skin_tone=1F64D,1F3FB
  16:medium-dark_skin_tone=1F64D,1F3FE 23:light_skin_tone=1F64D,1F3FC 22:_skin_tone=1F64D,1F3FD
  7:gesturing_no=1F645 19:_dark_skin_tone=1F645,1F3FF 20:light_skin_tone=1F645,1F3FB
  20:medium-dark_skin_tone=1F645,1F3FE 27:light_skin_tone=1F645,1F3FC 26:_skin_tone=1F645,1F3FD
  17:ok=1F646 19:_dark_skin_tone=1F646,1F3FF 20:light_skin_tone=1F646,1F3FB
  20:medium-dark_skin_tone=1F646,1F3FE 27:light_skin_tone=1F646,1F3FC 26:_skin_tone=1F646,1F3FD
  9:tting_haircut=1F487 22:_dark_skin_tone=1F487,1F3FF 23:light_skin_tone=1F487,1F3FB
  23:medium-dark_skin_tone=1F487,1F3FE 30:light_skin_tone=1F487,1F3FC 29:_skin_tone=1F487,1F3FD
  15:massage=1F486 22:_dark_skin_tone=1F486,1F3FF 23:light_skin_tone=1F486,1F3FB
  23:medium-dark_skin_tone=1F486,1F3FE 30:light_skin_tone=1F486,1F3FC 29:_skin_tone=1F486,1F3FD
  8:olfing=1F3CC 14:_dark_skin_tone=1F3CC,1F3FF 15:light_skin_tone=1F3CC,1F3FB
  15:medium-dark_skin_tone=1F3CC,1F3FE 22:light_skin_tone=1F3CC,1F3FC 21:_skin_tone=1F3CC,1F3FD
  7:in_bed=1F6CC 13:_dark_skin_tone=1F6CC,1F3FF 14:light_skin_tone=1F6CC,1F3FB
  14:medium-dark_skin_tone=1F6CC,1F3FE 21:light_skin_tone=1F6CC,1F3FC 20:_skin_tone=1F6CC,1F3FD
  10:lotus_position=1F9D8 24:_dark_skin_tone=1F9D8,1F3FF 25:light_skin_tone=1F9D8,1F3FB
  25:medium-dark_skin_tone=1F9D8,1F3FE 32:light_skin_tone=1F9D8,1F3FC 31:_skin_tone=1F9D8,1F3FD
  10:steamy_room=1F9D6 21:_dark_skin_tone=1F9D6,1F3FF 22:light_skin_tone=1F9D6,1F3FB
  22:medium-dark_skin_tone=1F9D6,1F3FE 29:light_skin_tone=1F9D6,1F3FC 28:_skin_tone=1F9D6,1F3FD
  7:juggling=1F939 15:_dark_skin_tone=1F939,1F3FF 16:light_skin_tone=1F939,1F3FB
  16:medium-dark_skin_tone=1F939,1F3FE 23:light_skin_tone=1F939,1F3FC 22:_skin_tone=1F939,1F3FD
  7:kneeling=1F9CE 7:lifting_weights=1F3CB 22:_dark_skin_tone=1F3CB,1F3FF
  23:light_skin_tone=1F3CB,1F3FB 23:medium-dark_skin_tone=1F3CB,1F3FE 30:light_skin_tone=1F3CB,1F3FC
  29:_skin_tone=1F3CB,1F3FD 7:mountain_biking=1F6B5 22:_dark_skin_tone=1F6B5,1F3FF
  23:light_skin_tone=1F6B5,1F3FB 23:medium-dark_skin_tone=1F6B5,1F3FE 30:light_skin_tone=1F6B5,1F3FC
  29:_skin_tone=1F6B5,1F3FD 7:playing_handball=1F93E 23:_dark_skin_tone=1F93E,1F3FF
  24:light_skin_tone=1F93E,1F3FB 24:medium-dark_skin_tone=1F93E,1F3FE 31:light_skin_tone=1F93E,1F3FC
  30:_skin_tone=1F93E,1F3FD 15:water_polo=1F93D 25:_dark_skin_tone=1F93D,1F3FF
  26:light_skin_tone=1F93D,1F3FB 26:medium-dark_skin_tone=1F93D,1F3FE 33:light_skin_tone=1F93D,1F3FC
  32:_skin_tone=1F93D,1F3FD 8:outing=1F64E 14:_dark_skin_tone=1F64E,1F3FF
  15:light_skin_tone=1F64E,1F3FB 15:medium-dark_skin_tone=1F64E,1F3FE 22:light_skin_tone=1F64E,1F3FC
  21:_skin_tone=1F64E,1F3FD 7:raising_hand=1F64B 19:_dark_skin_tone=1F64B,1F3FF
  20:light_skin_tone=1F64B,1F3FB 20:medium-dark_skin_tone=1F64B,1F3FE 27:light_skin_tone=1F64B,1F3FC
  26:_skin_tone=1F64B,1F3FD 8:owing_boat=1F6A3 18:_dark_skin_tone=1F6A3,1F3FF
  19:light_skin_tone=1F6A3,1F3FB 19:medium-dark_skin_tone=1F6A3,1F3FE 26:light_skin_tone=1F6A3,1F3FC
  25:_skin_tone=1F6A3,1F3FD 8:unning=1F3C3 14:_dark_skin_tone=1F3C3,1F3FF
  15:light_skin_tone=1F3C3,1F3FB 15:medium-dark_skin_tone=1F3C3,1F3FE 22:light_skin_tone=1F3C3,1F3FC
  21:_skin_tone=1F3C3,1F3FD 7:shrugging=1F937 16:_dark_skin_tone=1F937,1F3FF
  17:light_skin_tone=1F937,1F3FB 17:medium-dark_skin_tone=1F937,1F3FE 24:light_skin_tone=1F937,1F3FC
  23:_skin_tone=1F937,1F3FD 8:tanding=1F9CD 8:urfing=1F3C4 14:_dark_skin_tone=1F3C4,1F3FF
  15:light_skin_tone=1F3C4,1F3FB 15:medium-dark_skin_tone=1F3C4,1F3FE 22:light_skin_tone=1F3C4,1F3FC
  21:_skin_tone=1F3C4,1F3FD 8:wimming=1F3CA 15:_dark_skin_tone=1F3CA,1F3FF
  16:light_skin_tone=1F3CA,1F3FB 16:medium-dark_skin_tone=1F3CA,1F3FE 23:light_skin_tone=1F3CA,1F3FC
  22:_skin_tone=1F3CA,1F3FD 7:taking_bath=1F6C0 18:_dark_skin_tone=1F6C0,1F3FF
  19:light_skin_tone=1F6C0,1F3FB 19:medium-dark_skin_tone=1F6C0,1F3FE 26:light_skin_tone=1F6C0,1F3FC
  25:_skin_tone=1F6C0,1F3FD 8:ipping_hand=1F481 19:_dark_skin_tone=1F481,1F3FF
  20:light_skin_tone=1F481,1F3FB 20:medium-dark_skin_tone=1F481,1F3FE 27:light_skin_tone=1F481,1F3FC
  26:_skin_tone=1F481,1F3FD 7:walking=1F6B6 14:_dark_skin_tone=1F6B6,1F3FF
  15:light_skin_tone=1F6B6,1F3FB 15:medium-dark_skin_tone=1F6B6,1F3FE 22:light_skin_tone=1F6B6,1F3FC
  21:_skin_tone=1F6B6,1F3FD 8:earing_turban=1F473 21:_dark_skin_tone=1F473,1F3FF
  22:light_skin_tone=1F473,1F3FB 22:medium-dark_skin_tone=1F473,1F3FE 29:light_skin_tone=1F473,1F3FC
  28:_skin_tone=1F473,1F3FD 8:ith_ball=26F9 13:lond_hair=1F471 12:pouting_face=1F64E 3:u=1F1F5,1F1EA
  2:tri_dish=1F9EB 1:hilippines=1F1F5,1F1ED 2:one=260E 1:ick=26CF 2:e=1F967 2:g=1F437 3:2=1F416
  3:_face=1F437 4:nose=1F43D 2:le_of_poo=1F4A9 3:l=1F48A 2:nching_hand=1F90F 3:e_decoration=1F38D
  4:apple=1F34D 3:g_pong=1F3D3 2:rate_flag=1F3F4,200D,2620,FE0F 2:sces=2653 3:tol=1F52B
  2:tcairn_islands=1F1F5,1F1F3 2:zza=1F355 1:lace_of_worship=1F6D0 3:y_button=25B6
  5:or_pause_button=23EF 2:eading_face=1F97A 1:oint_down=1F447 6:left=1F448 6:right=1F449 6:up=261D
  8:_2=1F446 2:land=1F1F5,1F1F1 3:ice_car=1F693 10:_light=1F6A8 7:officer=1F46E
  14:_dark_skin_tone=1F46E,1F3FF 15:light_skin_tone=1F46E,1F3FB 15:medium-dark_skin_tone=1F46E,1F3FE
  22:light_skin_tone=1F46E,1F3FC 21:_skin_tone=1F46E,1F3FD 2:odle=1F429 3:l_8_ball=1F3B1 3:p=1F4A9
  2:pcorn=1F37F 2:rtugal=1F1F5,1F1F9 2:st_office=1F3E3 4:al_horn=1F4EF 4:box=1F4EE 2:t_of_food=1F372
  3:able_water=1F6B0 4:to=1F954 2:uch=1F45D 3:ltry_leg=1F357 3:nd=1F4B7 5:_banknote=1F4B7
  3:ting_cat=1F63E 11:_face=1F63E 8:face=1F621 1:ray=1F64F 4:er_beads=1F4FF 2:egnant_woman=1F930
  14:_dark_skin_tone=1F930,1F3FF 15:light_skin_tone=1F930,1F3FB 15:medium-dark_skin_tone=1F930,1F3FE
  22:light_skin_tone=1F930,1F3FC 21:_skin_tone=1F930,1F3FD 3:tzel=1F968 2:ince=1F934
  6:_dark_skin_tone=1F934,1F3FF 7:light_skin_tone=1F934,1F3FB 7:medium-dark_skin_tone=1F934,1F3FE
  14:light_skin_tone=1F934,1F3FC 13:_skin_tone=1F934,1F3FD 6:ss=1F478 8:_dark_skin_tone=1F478,1F3FF
  9:light_skin_tone=1F478,1F3FB 9:medium-dark_skin_tone=1F478,1F3FE 16:light_skin_tone=1F478,1F3FC
  15:_skin_tone=1F478,1F3FD 4:ter=1F5A8 2:obing_cane=1F9AF 3:hibited=1F6AB 1:uerto_rico=1F1F5,1F1F7
  2:nch=1F44A 2:rple_circle=1F7E3 7:heart=1F49C 7:square=1F7EA 3:se=1F45B 2:shpin=1F4CC
  2:t_litter_in_its_place=1F6AE 0:qatar=1F1F6,1F1E6 1:uestion=2753 8:_mark=2753 0:rabbit=1F430
  6:2=1F407 6:_face=1F430 2:ccoon=1F99D 3:ehorse=1F40E 3:ing_car=1F3CE 7:motorcycle=1F3CD
  2:dio=1F4FB 5:_button=1F518 5:active=2622 11:_sign=2622 2:ge=1F621 2:ilway_car=1F683 8:track=1F6E4
  3:nbow=1F308 7:_flag=1F3F3,FE0F,200D,1F308 3:sed_back_of_hand=1F91A 19:_dark_skin_tone=1F91A,1F3FF
  20:light_skin_tone=1F91A,1F3FB 20:medium-dark_skin_tone=1F91A,1F3FE 27:light_skin_tone=1F91A,1F3FC
  26:_skin_tone=1F91A,1F3FD 7:fist=270A 11:_dark_skin_tone=270A,1F3FF 12:light_skin_tone=270A,1F3FB
  12:medium-dark_skin_tone=270A,1F3FE 19:light_skin_tone=270A,1F3FC 18:_skin_tone=270A,1F3FD
  7:hand=270B 11:_dark_skin_tone=270B,1F3FF 12:light_skin_tone=270B,1F3FB
  12:medium-dark_skin_tone=270B,1F3FE 19:light_skin_tone=270B,1F3FC 18:_skin_tone=270B,1F3FD
  12:with_fingers_splayed=1F590 17:part_between_middle_and_ring_fingers=1F596 11:s=1F64C
  4:ing_hand=1F64B 12:s=1F64C 13:_dark_skin_tone=1F64C,1F3FF 14:light_skin_tone=1F64C,1F3FB
  14:medium-dark_skin_tone=1F64C,1F3FE 21:light_skin_tone=1F64C,1F3FC 20:_skin_tone=1F64C,1F3FD
  2:m=1F40F 3:en=1F35C 2:t=1F400 2:zor=1FA92 1:eceipt=1F9FE 3:ord_button=23FA 3:ycle=267B
  6:ing_symbol=267B 2:d-haired_man=1F468,200D,1F9B0 11:woman=1F469,200D,1F9B0 3:_apple=1F34E
  4:car=1F697 5:ircle=1F534 4:envelope=1F9E7 4:hair=1F9B0 5:eart=2764 4:paper_lantern=1F3EE
  4:square=1F7E5 4:triangle_pointed_down=1F53B 21:up=1F53A 2:gional_indicator_a=1F1E6 19:b=1F1E7
  19:c=1F1E8 19:d=1F1E9 19:e=1F1EA 19:f=1F1EB 19:g=1F1EC 19:h=1F1ED 19:i=1F1EE 19:j=1F1EF 19:k=1F1F0
  19:l=1F1F1 19:m=1F1F2 19:n=1F1F3 19:o=1F1F4 19:p=1F1F5 19:q=1F1F6 19:r=1F1F7 19:s=1F1F8
  20:ymbol_letter_a=1F1E6 33:b=1F1E7 33:c=1F1E8 33:d=1F1E9 33:e=1F1EA 33:f=1F1EB 33:g=1F1EC
  33:h=1F1ED 33:i=1F1EE 33:j=1F1EF 33:k=1F1F0 33:l=1F1F1 33:m=1F1F2 33:n=1F1F3 33:o=1F1F4 33:p=1F1F5
  33:q=1F1F6 33:r=1F1F7 33:s=1F1F8 33:t=1F1F9 33:u=1F1FA 33:v=1F1FB 33:w=1F1FC 33:x=1F1FD 33:y=1F1FE
  33:z=1F1FF 19:t=1F1F9 19:u=1F1FA 19:v=1F1FB 19:w=1F1FC 19:x=1F1FD 19:y=1F1FE 19:z=1F1FF
  4:stered=AE 2:laxed=263A 3:ieved=1F60C 8:_face=1F60C 2:minder_ribbon=1F397 2:peat=1F501
  6:_button=1F501 7:one=1F502 7:single_button=1F502 2:scue_worker’s_helmet=26D1 3:troom=1F6BB
  2:verse_button=25C0 7:d_hand_with_middle_finger_extended=1F595 3:olving_hearts=1F49E 2:wind=23EA
  1:hinoceros=1F98F 1:ibbon=1F380 2:ce=1F35A 4:_ball=1F359 5:cracker=1F358 5:scene=1F391
  2:ght-facing_fist=1F91C 17:_dark_skin_tone=1F91C,1F3FF 18:light_skin_tone=1F91C,1F3FB
  18:medium-dark_skin_tone=1F91C,1F3FE 25:light_skin_tone=1F91C,1F3FC 24:_skin_tone=1F91C,1F3FD
  5:_anger_bubble=1F5EF 7:rrow=27A1 11:_curving_down=2935 20:left=21A9 20:up=2934 2:ng=1F48D
  4:ed_planet=1FA90 1:oasted_sweet_potato=1F360 2:bot=1F916 5:_face=1F916 2:cket=1F680
  2:ll_of_paper=1F9FB 4:ed-up_newspaper=1F5DE 6:__up_newspaper=1F5DE 5:r_coaster=1F3A2
  4:ing_on_the_floor_laughing=1F923 2:mania=1F1F7,1F1F4 2:oster=1F413 2:se=1F339 4:tte=1F3F5
  2:tating_light=1F6A8 2:und_pushpin=1F4CD 2:wboat=1F6A3 1:ugby_football=1F3C9 2:nner=1F3C3
  4:ing=1F3C3 7:_shirt=1F3BD 13:_with_sash=1F3BD 10:oe=1F45F 2:ssia=1F1F7,1F1FA 1:wanda=1F1F7,1F1FC
  1:éunion=1F1F7,1F1EA 0:sa=1F202 2:d_but_relieved_face=1F625 2:fety_pin=1F9F7 7:vest=1F9BA
  2:gittarius=2650 2:ilboat=26F5 2:ke=1F376 2:lt=1F9C2 2:moa=1F1FC,1F1F8 2:n_marino=1F1F8,1F1F2
  3:dal=1F461 4:wich=1F96A 3:ta=1F385 5:_claus=1F385 11:_dark_skin_tone=1F385,1F3FF
  12:light_skin_tone=1F385,1F3FB 12:medium-dark_skin_tone=1F385,1F3FE 19:light_skin_tone=1F385,1F3FC
  18:_skin_tone=1F385,1F3FD 2:ri=1F97B 2:tellite=1F4E1 9:_antenna=1F4E1 3:isfied=1F606
  2:udi_arabia=1F1F8,1F1E6 3:ropod=1F995 2:xophone=1F3B7 1:cales=2696 3:rf=1F9E3 2:hool=1F3EB
  6:_backpack=1F392 7:satchel=1F392 2:issors=2702 2:orpio=264F 7:n=1F982 6:us=264F
  3:tland=1F3F4,E0067,E0062,E0073,E0063,E0074,E007F 2:ream=1F631 6:_cat=1F640 3:oll=1F4DC
  1:eat=1F4BA 2:cret=3299 2:e-no-evil_monkey=1F648 3:_no_evil=1F648 3:dling=1F331 2:lfie=1F933
  6:_dark_skin_tone=1F933,1F3FF 7:light_skin_tone=1F933,1F3FB 7:medium-dark_skin_tone=1F933,1F3FE
  14:light_skin_tone=1F933,1F3FC 13:_skin_tone=1F933,1F3FD 2:negal=1F1F8,1F1F3 2:rbia=1F1F7,1F1F8
  3:vice_dog=1F415,200D,1F9BA 2:ven=37,FE0F,20E3 5:-thirty=1F562 5:_o’clock=1F556
  2:ychelles=1F1F8,1F1E8 1:hallow_pan_of_food=1F958 3:mrock=2618 3:rk=1F988 3:ved_ice=1F367
  2:eaf_of_rice=1F33E 3:ep=1F411 3:ll=1F41A 2:ield=1F6E1 3:nto_shrine=26E9 3:p=1F6A2 3:rt=1F455
  3:t=1F4A9 2:oe=1F45E 3:oting_star=1F320 3:pping_bags=1F6CD 9:cart=1F6D2 3:rtcake=1F370 5:s=1FA73
  3:wer=1F6BF 2:rimp=1F990 2:uffle_tracks_button=1F500 3:shing_face=1F92B 1:ierra_leone=1F1F8,1F1F1
  2:gn_of_the_horns=1F918 17:_dark_skin_tone=1F918,1F3FF 18:light_skin_tone=1F918,1F3FB
  18:medium-dark_skin_tone=1F918,1F3FE 25:light_skin_tone=1F918,1F3FC 24:_skin_tone=1F918,1F3FD
  4:al_strength=1F4F6 2:ngapore=1F1F8,1F1EC 3:t_maarten=1F1F8,1F1FD 2:x=36,FE0F,20E3 3:-thirty=1F561
  3:_o’clock=1F555 4:pointed_star=1F52F 1:kateboard=1F6F9 2:i=1F3BF 3:er=26F7 3:s=1F3BF 2:ull=1F480
  5:_and_crossbones=2620 3:nk=1F9A8 1:led=1F6F7 3:eping=1F634 8:_accommodation=1F6CC 9:face=1F634
  5:y=1F62A 6:_face=1F62A 3:uth_or_spy=1F575 2:ightly_frowning_face=1F641 9:smiling_face=1F642
  2:ot_machine=1F3B0 4:h=1F9A5 3:vakia=1F1F8,1F1F0 4:enia=1F1F8,1F1EE 1:mall_airplane=1F6E9
  6:blue_diamond=1F539 6:orange_diamond=1F538 6:red_triangle=1F53A 18:_down=1F53B 2:ile=1F604
  5:_cat=1F638 5:y=1F603 6:_cat=1F63A 4:ing_cat_face_with_heart-eyes=1F63B 8:face=263A
  12:_with_3_hearts=1F970 18:halo=1F607 19:eart-eyes=1F60D 19:orns=1F608 18:smiling_eyes=1F60A
  19:unglasses=1F60E 8:imp=1F608 3:rk=1F60F 5:_cat=1F63C 5:ing_face=1F60F 2:oking=1F6AC 1:nail=1F40C
  3:ke=1F40D 2:eezing_face=1F927 2:ow-capped_mountain=1F3D4 4:_capped_mountain=1F3D4 4:boarder=1F3C2
  11:_dark_skin_tone=1F3C2,1F3FF 12:light_skin_tone=1F3C2,1F3FB 12:medium-dark_skin_tone=1F3C2,1F3FE
  19:light_skin_tone=1F3C2,1F3FC 18:_skin_tone=1F3C2,1F3FD 4:flake=2744 4:man=2603
  7:_without_snow=26C4 1:oap=1F9FC 2:b=1F62D 2:ccer=26BD 6:_ball=26BD 3:ks=1F9E6
  2:ft_ice_cream=1F366 4:ball=1F94E 2:lomon_islands=1F1F8,1F1E7 2:malia=1F1F8,1F1F4 2:on=1F51C
  4:_arrow=1F51C 2:s=1F198 3:_button=1F198 2:und=1F509 3:th_africa=1F1FF,1F1E6
  6:georgia_&_south_sandwich_islands=1F1EC,1F1F8 6:korea=1F1F0,1F1F7 6:sudan=1F1F8,1F1F8
  1:pace_invader=1F47E 3:de_suit=2660 5:s=2660 3:ghetti=1F35D 3:in=1F1EA,1F1F8 3:rkle=2747 7:r=1F387
  7:s=2728 6:ing_heart=1F496 2:eak-no-evil_monkey=1F64A 5:_no_evil=1F64A 5:er=1F508
  7:_high_volume=1F50A 8:low_volume=1F508 8:medium_volume=1F509 5:ing_head=1F5E3
  13:_in_silhouette=1F5E3 3:ech_balloon=1F4AC 4:dboat=1F6A4 2:ider=1F577 6:_web=1F578
  3:ral_calendar=1F5D3 15:_pad=1F5D3 7:note_pad=1F5D2 11:pad=1F5D2 7:shell=1F41A 2:onge=1F9FD
  3:on=1F944 3:rt_utility_vehicle=1F699 5:s_medal=1F3C5 3:uting_whale=1F433 1:quid=1F991
  4:nting_face_with_tongue=1F61D 1:ri_lanka=1F1F1,1F1F0 1:t._barthélemy=1F1E7,1F1F1
  4:helena=1F1F8,1F1ED 4:kitts_&_nevis=1F1F0,1F1F3 4:lucia=1F1F1,1F1E8 4:martin=1F1F2,1F1EB
  4:pierre_&_miquelon=1F1F5,1F1F2 4:vincent_&_grenadines=1F1FB,1F1E8 2:adium=1F3DF 3:r=2B50
  4:-struck=1F929 4:2=1F31F 4:_and_crescent=262A 5:of_david=2721 4:s=1F320 3:tion=1F689
  4:ue_of_liberty=1F5FD 2:eam_locomotive=1F682 5:ing_bowl=1F35C 3:thoscope=1FA7A 3:w=1F372
  2:op_button=23F9 5:sign=1F6D1 4:watch=23F1 2:raight_ruler=1F4CF 4:wberry=1F353
  2:uck_out_tongue=1F61B 16:_closed_eyes=1F61D 17:winking_eye=1F61C 3:dio_microphone=1F399
  3:ffed_flatbread=1F959 1:udan=1F1F8,1F1E9 2:n=2600 3:_behind_cloud=26C5 11:large_cloud=1F325
  11:rain_cloud=1F326 11:small_cloud=1F324 4:with_face=1F31E 3:flower=1F33B 3:glasses=1F60E
  3:ny=2600 3:rise=1F305 7:_over_mountains=1F304 3:set=1F307 2:perhero=1F9B8 5:villain=1F9B9
  2:rfer=1F3C4 3:iname=1F1F8,1F1F7 2:shi=1F363 3:pension_railway=1F69F
  1:valbard_&_jan_mayen=1F1F8,1F1EF 1:wan=1F9A2 3:ziland=1F1F8,1F1FF 2:eat=1F613 5:_droplets=1F4A6
  10:s=1F4A6 6:smile=1F605 3:den=1F1F8,1F1EA 3:et_potato=1F360 2:immer=1F3CA 3:tzerland=1F1E8,1F1ED
  1:ymbols=1F523 2:nagogue=1F54D 2:ria=1F1F8,1F1FE 4:nge=1F489 1:ão_tomé_&_príncipe=1F1F8,1F1F9
  0:t-rex=1F996 2:shirt=1F455 1:able_tennis_paddle_and_ball=1F3D3 2:co=1F32E 2:da=1F389
  2:iwan=1F1F9,1F1FC 2:jikistan=1F1F9,1F1EF 2:keout_box=1F961 2:nabata_tree=1F38B 3:gerine=1F34A
  3:zania=1F1F9,1F1FF 2:urus=2649 2:xi=1F695 1:ea=1F375 3:cup_without_handle=1F375
  3:r-off_calendar=1F4C6 2:ddy_bear=1F9F8 2:lephone=260E 9:_receiver=1F4DE 4:scope=1F52D
  4:vision=1F4FA 2:n=1F51F 3:-thirty=1F565 3:_o’clock=1F559 3:nis=1F3BE 3:t=26FA 2:st_tube=1F9EA
  1:hailand=1F1F9,1F1ED 2:ermometer=1F321 2:inking_face=1F914 2:ought_balloon=1F4AD 2:read=1F9F5
  4:e=33,FE0F,20E3 5:-thirty=1F55E 5:_button_mouse=1F5B1 6:o’clock=1F552 2:umbs_down=1F44E
  11:_dark_skin_tone=1F44E,1F3FF 12:light_skin_tone=1F44E,1F3FB 12:medium-dark_skin_tone=1F44E,1F3FE
  19:light_skin_tone=1F44E,1F3FC 18:_skin_tone=1F44E,1F3FD 7:up=1F44D 9:_dark_skin_tone=1F44D,1F3FF
  10:light_skin_tone=1F44D,1F3FB 10:medium-dark_skin_tone=1F44D,1F3FE 17:light_skin_tone=1F44D,1F3FC
  16:_skin_tone=1F44D,1F3FD 6:down=1F44E 6:up=1F44D 3:nder_cloud_and_rain=26C8 1:icket=1F3AB
  2:ger=1F42F 5:2=1F405 5:_face=1F42F 2:mer_clock=23F2 3:or-leste=1F1F9,1F1F1 2:red_face=1F62B
  1:m=2122 1:ogo=1F1F9,1F1EC 2:ilet=1F6BD 2:kelau=1F1F9,1F1F0 3:yo_tower=1F5FC 2:mato=1F345
  2:nga=1F1F9,1F1F4 4:ue=1F445 2:olbox=1F9F0 3:th=1F9B7 2:p=1F51D 3:_arrow=1F51D 4:hat=1F3A9
  3:hat=1F3A9 2:rnado=1F32A 1:rackball=1F5B2 4:tor=1F69C 3:de_mark=2122 3:ffic_light=1F6A5
  3:in=1F68B 5:2=1F686 3:m=1F68A 4:_car=1F68B 2:iangular_flag=1F6A9 15:_on_post=1F6A9 11:ruler=1F4D0
  3:dent=1F531 7:_emblem=1F531 3:nidad_&_tobago=1F1F9,1F1F9 3:stan_da_cunha=1F1F9,1F1E6 3:umph=1F624
  2:olleybus=1F68E 3:phy=1F3C6 4:ical_drink=1F379 9:fish=1F420 2:uck=1F69A 3:mpet=1F3BA
  1:shirt=1F455 1:ulip=1F337 2:mbler_glass=1F943 2:nisia=1F1F9,1F1F3 2:rkey=1F983
  4:menistan=1F1F9,1F1F2 4:s_&_caicos_islands=1F1F9,1F1E8 3:tle=1F422 2:valu=1F1F9,1F1FB 1:v=1F4FA
  1:welve-thirty=1F567 6:_o’clock=1F55B 2:isted_rightwards_arrows=1F500 2:o=32,FE0F,20E3
  3:-hump_camel=1F42B 4:thirty=1F55D 3:_hearts=1F495 4:men_holding_hands=1F46C 4:o’clock=1F551
  4:women_holding_hands=1F46D 0:u.s._outlying_islands=1F1FA,1F1F2 5:virgin_islands=1F1FB,1F1EE
  1:5272=1F239 2:408=1F234 2:5b6=1F23A 1:6307=1F22F 2:708=1F237 4:9=1F236 2:e80=1F235 1:7121=1F21A
  2:533=1F238 2:981=1F232 2:a7a=1F233 1:ganda=1F1FA,1F1EC 1:kraine=1F1FA,1F1E6 1:mbrella=2602
  8:_on_ground=26F1 9:with_rain_drops=2614 1:namused=1F612 8:_face=1F612 2:derage=1F51E
  2:icorn_face=1F984 3:ted_arab_emirates=1F1E6,1F1EA 7:kingdom=1F1EC,1F1E7 7:nations=1F1FA,1F1F3
  7:states=1F1FA,1F1F8 2:lock=1F513 6:ed=1F513 1:p=1F199 2:!_button=1F199 2:-down_arrow=2195
  3:left_arrow=2196 3:right_arrow=2197 2:_arrow=2B06 2:side-down_face=1F643 6:__down_face=1F643
  2:wards_button=1F53C 1:ruguay=1F1FA,1F1FE 1:zbekistan=1F1FA,1F1FF 0:v=270C 1:ampire=1F9DB
  7:_dark_skin_tone=1F9DB,1F3FF 8:light_skin_tone=1F9DB,1F3FB 8:medium-dark_skin_tone=1F9DB,1F3FE
  15:light_skin_tone=1F9DB,1F3FC 14:_skin_tone=1F9DB,1F3FD 2:nuatu=1F1FB,1F1FA
  2:tican_city=1F1FB,1F1E6 1:enezuela=1F1FB,1F1EA 2:rtical_traffic_light=1F6A6 1:hs=1F4FC
  1:ibration_mode=1F4F3 2:ctory_hand=270C 12:_dark_skin_tone=270C,1F3FF
  13:light_skin_tone=270C,1F3FB 13:medium-dark_skin_tone=270C,1F3FE 20:light_skin_tone=270C,1F3FC
  19:_skin_tone=270C,1F3FD 2:deo_camera=1F4F9 6:game=1F3AE 5:cassette=1F4FC 2:etnam=1F1FB,1F1F3
  2:olin=1F3BB 2:rgo=264D 1:olcano=1F30B 3:leyball=1F3D0 1:s=1F19A 2:_button=1F19A
  1:ulcan_salute=1F596 13:_dark_skin_tone=1F596,1F3FF 14:light_skin_tone=1F596,1F3FB
  14:medium-dark_skin_tone=1F596,1F3FE 21:light_skin_tone=1F596,1F3FC 20:_skin_tone=1F596,1F3FD
  0:waffle=1F9C7 2:les=1F3F4,E0067,E0062,E0077,E006C,E0073,E007F 3:king=1F6B6
  3:lis_&_futuna=1F1FC,1F1EB 2:ning_crescent_moon=1F318 7:gibbous_moon=1F316 2:rning=26A0
  2:stebasket=1F5D1 2:tch=231A 3:er_buffalo=1F403 6:closet=1F6BE 6:wave=1F30A 5:melon=1F349
  2:ve=1F44B 3:ing_black_flag=1F3F4 7:hand=1F44B 11:_dark_skin_tone=1F44B,1F3FF
  12:light_skin_tone=1F44B,1F3FB 12:medium-dark_skin_tone=1F44B,1F3FE 19:light_skin_tone=1F44B,1F3FC
  18:_skin_tone=1F44B,1F3FD 7:white_flag=1F3F3 3:y_dash=3030 2:xing_crescent_moon=1F312
  7:gibbous_moon=1F314 1:c=1F6BE 1:eary=1F629 5:_cat_face=1F640 6:face=1F629 2:dding=1F492
  2:ight_lifter=1F3CB 2:stern_sahara=1F1EA,1F1ED 1:hale=1F433 5:2=1F40B 2:eel_of_dharma=2638
  5:chair=267F 10:_symbol=267F 2:ite-haired_man=1F468,200D,1F9B3 13:woman=1F469,200D,1F9B3
  5:_check_mark=2705 7:ircle=26AA 6:exclamation_mark=2755 6:flag=1F3F3 8:ower=1F4AE
  7:rowning_face=2639 6:hair=1F9B3 7:eart=1F90D 9:vy_check_mark=2705 6:large_square=2B1C
  6:medium-small_square=25FD 12:_small_square=25FD 14:quare=25FB 14:tar=2B50 6:question_mark=2754
  6:small_square=25AB 7:quare_button=1F533 7:un_behind_cloud=1F325 22:_with_rain=1F326
  10:with_small_cloud=1F324 1:ilted_flower=1F940 2:nd_blowing_face=1F32C 5:chime=1F390 5:face=1F32C
  3:e_glass=1F377 3:k=1F609 4:ing_face=1F609 12:_with_tongue=1F61C 1:olf=1F43A 4:_face=1F43A
  2:man=1F469 5:_artist=1F469,200D,1F3A8 12:_dark_skin_tone=1F469,1F3FF,200D,1F3A8
  13:light_skin_tone=1F469,1F3FB,200D,1F3A8 13:medium-dark_skin_tone=1F469,1F3FE,200D,1F3A8
  20:light_skin_tone=1F469,1F3FC,200D,1F3A8 19:_skin_tone=1F469,1F3FD,200D,1F3A8
  7:stronaut=1F469,200D,1F680 15:_dark_skin_tone=1F469,1F3FF,200D,1F680
  16:light_skin_tone=1F469,1F3FB,200D,1F680 16:medium-dark_skin_tone=1F469,1F3FE,200D,1F680
  23:light_skin_tone=1F469,1F3FC,200D,1F680 22:_skin_tone=1F469,1F3FD,200D,1F680
  6:biking=1F6B4,200D,2640,FE0F 12:_dark_skin_tone=1F6B4,1F3FF,200D,2640,FE0F
  13:light_skin_tone=1F6B4,1F3FB,200D,2640,FE0F 13:medium-dark_skin_tone=1F6B4,1F3FE,200D,2640,FE0F
  20:light_skin_tone=1F6B4,1F3FC,200D,2640,FE0F 19:_skin_tone=1F6B4,1F3FD,200D,2640,FE0F
  7:ouncing_ball=26F9,FE0F,200D,2640,FE0F 19:_dark_skin_tone=26F9,1F3FF,200D,2640,FE0F
  20:light_skin_tone=26F9,1F3FB,200D,2640,FE0F 20:medium-dark_skin_tone=26F9,1F3FE,200D,2640,FE0F
  27:light_skin_tone=26F9,1F3FC,200D,2640,FE0F 26:_skin_tone=26F9,1F3FD,200D,2640,FE0F
  8:wing=1F647,200D,2640,FE0F 12:_dark_skin_tone=1F647,1F3FF,200D,2640,FE0F
  13:light_skin_tone=1F647,1F3FB,200D,2640,FE0F 13:medium-dark_skin_tone=1F647,1F3FE,200D,2640,FE0F
  20:light_skin_tone=1F647,1F3FC,200D,2640,FE0F 19:_skin_tone=1F647,1F3FD,200D,2640,FE0F
  6:cartwheeling=1F938,200D,2640,FE0F 18:_dark_skin_tone=1F938,1F3FF,200D,2640,FE0F
  19:light_skin_tone=1F938,1F3FB,200D,2640,FE0F 19:medium-dark_skin_tone=1F938,1F3FE,200D,2640,FE0F
  26:light_skin_tone=1F938,1F3FC,200D,2640,FE0F 25:_skin_tone=1F938,1F3FD,200D,2640,FE0F
  7:limbing=1F9D7,200D,2640,FE0F 14:_dark_skin_tone=1F9D7,1F3FF,200D,2640,FE0F
  15:light_skin_tone=1F9D7,1F3FB,200D,2640,FE0F 15:medium-dark_skin_tone=1F9D7,1F3FE,200D,2640,FE0F
  22:light_skin_tone=1F9D7,1F3FC,200D,2640,FE0F 21:_skin_tone=1F9D7,1F3FD,200D,2640,FE0F
  7:onstruction_worker=1F477,200D,2640,FE0F 25:_dark_skin_tone=1F477,1F3FF,200D,2640,FE0F
  26:light_skin_tone=1F477,1F3FB,200D,2640,FE0F 26:medium-dark_skin_tone=1F477,1F3FE,200D,2640,FE0F
  33:light_skin_tone=1F477,1F3FC,200D,2640,FE0F 32:_skin_tone=1F477,1F3FD,200D,2640,FE0F
  8:ok=1F469,200D,1F373 10:_dark_skin_tone=1F469,1F3FF,200D,1F373
  11:light_skin_tone=1F469,1F3FB,200D,1F373 11:medium-dark_skin_tone=1F469,1F3FE,200D,1F373
  18:light_skin_tone=1F469,1F3FC,200D,1F373 17:_skin_tone=1F469,1F3FD,200D,1F373 6:dancing=1F483
  13:_dark_skin_tone=1F483,1F3FF 14:light_skin_tone=1F483,1F3FB 14:medium-dark_skin_tone=1F483,1F3FE
  21:light_skin_tone=1F483,1F3FC 20:_skin_tone=1F483,1F3FD 8:rk_skin_tone=1F469,1F3FF
  7:etective=1F575,FE0F,200D,2640,FE0F 15:_dark_skin_tone=1F575,1F3FF,200D,2640,FE0F
  16:light_skin_tone=1F575,1F3FB,200D,2640,FE0F 16:medium-dark_skin_tone=1F575,1F3FE,200D,2640,FE0F
  23:light_skin_tone=1F575,1F3FC,200D,2640,FE0F 22:_skin_tone=1F575,1F3FD,200D,2640,FE0F
  6:elf=1F9DD,200D,2640,FE0F 9:_dark_skin_tone=1F9DD,1F3FF,200D,2640,FE0F
  10:light_skin_tone=1F9DD,1F3FB,200D,2640,FE0F 10:medium-dark_skin_tone=1F9DD,1F3FE,200D,2640,FE0F
  17:light_skin_tone=1F9DD,1F3FC,200D,2640,FE0F 16:_skin_tone=1F9DD,1F3FD,200D,2640,FE0F
  6:facepalming=1F926,200D,2640,FE0F 17:_dark_skin_tone=1F926,1F3FF,200D,2640,FE0F
  18:light_skin_tone=1F926,1F3FB,200D,2640,FE0F 18:medium-dark_skin_tone=1F926,1F3FE,200D,2640,FE0F
  25:light_skin_tone=1F926,1F3FC,200D,2640,FE0F 24:_skin_tone=1F926,1F3FD,200D,2640,FE0F
  9:tory_worker=1F469,200D,1F3ED 20:_dark_skin_tone=1F469,1F3FF,200D,1F3ED
  21:light_skin_tone=1F469,1F3FB,200D,1F3ED 21:medium-dark_skin_tone=1F469,1F3FE,200D,1F3ED
  28:light_skin_tone=1F469,1F3FC,200D,1F3ED 27:_skin_tone=1F469,1F3FD,200D,1F3ED
  8:iry=1F9DA,200D,2640,FE0F 11:_dark_skin_tone=1F9DA,1F3FF,200D,2640,FE0F
  12:light_skin_tone=1F9DA,1F3FB,200D,2640,FE0F 12:medium-dark_skin_tone=1F9DA,1F3FE,200D,2640,FE0F
  19:light_skin_tone=1F9DA,1F3FC,200D,2640,FE0F 18:_skin_tone=1F9DA,1F3FD,200D,2640,FE0F
  8:rmer=1F469,200D,1F33E 12:_dark_skin_tone=1F469,1F3FF,200D,1F33E
  13:light_skin_tone=1F469,1F3FB,200D,1F33E 13:medium-dark_skin_tone=1F469,1F3FE,200D,1F33E
  20:light_skin_tone=1F469,1F3FC,200D,1F33E 19:_skin_tone=1F469,1F3FD,200D,1F33E
  7:irefighter=1F469,200D,1F692 17:_dark_skin_tone=1F469,1F3FF,200D,1F692
  18:light_skin_tone=1F469,1F3FB,200D,1F692 18:medium-dark_skin_tone=1F469,1F3FE,200D,1F692
  25:light_skin_tone=1F469,1F3FC,200D,1F692 24:_skin_tone=1F469,1F3FD,200D,1F692
  7:rowning=1F64D,200D,2640,FE0F 14:_dark_skin_tone=1F64D,1F3FF,200D,2640,FE0F
  15:light_skin_tone=1F64D,1F3FB,200D,2640,FE0F 15:medium-dark_skin_tone=1F64D,1F3FE,200D,2640,FE0F
  22:light_skin_tone=1F64D,1F3FC,200D,2640,FE0F 21:_skin_tone=1F64D,1F3FD,200D,2640,FE0F
  6:genie=1F9DE,200D,2640,FE0F 8:sturing_no=1F645,200D,2640,FE0F
  18:_dark_skin_tone=1F645,1F3FF,200D,2640,FE0F 19:light_skin_tone=1F645,1F3FB,200D,2640,FE0F
  19:medium-dark_skin_tone=1F645,1F3FE,200D,2640,FE0F 26:light_skin_tone=1F645,1F3FC,200D,2640,FE0F
  25:_skin_tone=1F645,1F3FD,200D,2640,FE0F 16:ok=1F646,200D,2640,FE0F
  18:_dark_skin_tone=1F646,1F3FF,200D,2640,FE0F 19:light_skin_tone=1F646,1F3FB,200D,2640,FE0F
  19:medium-dark_skin_tone=1F646,1F3FE,200D,2640,FE0F 26:light_skin_tone=1F646,1F3FC,200D,2640,FE0F
  25:_skin_tone=1F646,1F3FD,200D,2640,FE0F 8:tting_haircut=1F487,200D,2640,FE0F
  21:_dark_skin_tone=1F487,1F3FF,200D,2640,FE0F 22:light_skin_tone=1F487,1F3FB,200D,2640,FE0F
  22:medium-dark_skin_tone=1F487,1F3FE,200D,2640,FE0F 29:light_skin_tone=1F487,1F3FC,200D,2640,FE0F
  28:_skin_tone=1F487,1F3FD,200D,2640,FE0F 14:massage=1F486,200D,2640,FE0F
  21:_dark_skin_tone=1F486,1F3FF,200D,2640,FE0F 22:light_skin_tone=1F486,1F3FB,200D,2640,FE0F
  22:medium-dark_skin_tone=1F486,1F3FE,200D,2640,FE0F 29:light_skin_tone=1F486,1F3FC,200D,2640,FE0F
  28:_skin_tone=1F486,1F3FD,200D,2640,FE0F 7:olfing=1F3CC,FE0F,200D,2640,FE0F
  13:_dark_skin_tone=1F3CC,1F3FF,200D,2640,FE0F 14:light_skin_tone=1F3CC,1F3FB,200D,2640,FE0F
  14:medium-dark_skin_tone=1F3CC,1F3FE,200D,2640,FE0F 21:light_skin_tone=1F3CC,1F3FC,200D,2640,FE0F
  20:_skin_tone=1F3CC,1F3FD,200D,2640,FE0F 7:uard=1F482,200D,2640,FE0F
  11:_dark_skin_tone=1F482,1F3FF,200D,2640,FE0F 12:light_skin_tone=1F482,1F3FB,200D,2640,FE0F
  12:medium-dark_skin_tone=1F482,1F3FE,200D,2640,FE0F 19:light_skin_tone=1F482,1F3FC,200D,2640,FE0F
  18:_skin_tone=1F482,1F3FD,200D,2640,FE0F 6:health_worker=1F469,200D,2695,FE0F
  19:_dark_skin_tone=1F469,1F3FF,200D,2695,FE0F 20:light_skin_tone=1F469,1F3FB,200D,2695,FE0F
  20:medium-dark_skin_tone=1F469,1F3FE,200D,2695,FE0F 27:light_skin_tone=1F469,1F3FC,200D,2695,FE0F
  26:_skin_tone=1F469,1F3FD,200D,2695,FE0F 6:in_lotus_position=1F9D8,200D,2640,FE0F
  23:_dark_skin_tone=1F9D8,1F3FF,200D,2640,FE0F 24:light_skin_tone=1F9D8,1F3FB,200D,2640,FE0F
  24:medium-dark_skin_tone=1F9D8,1F3FE,200D,2640,FE0F 31:light_skin_tone=1F9D8,1F3FC,200D,2640,FE0F
  30:_skin_tone=1F9D8,1F3FD,200D,2640,FE0F 9:manual_wheelchair=1F469,200D,1F9BD
  10:otorized_wheelchair=1F469,200D,1F9BC 9:steamy_room=1F9D6,200D,2640,FE0F
  20:_dark_skin_tone=1F9D6,1F3FF,200D,2640,FE0F 21:light_skin_tone=1F9D6,1F3FB,200D,2640,FE0F
  21:medium-dark_skin_tone=1F9D6,1F3FE,200D,2640,FE0F 28:light_skin_tone=1F9D6,1F3FC,200D,2640,FE0F
  27:_skin_tone=1F9D6,1F3FD,200D,2640,FE0F 6:judge=1F469,200D,2696,FE0F
  11:_dark_skin_tone=1F469,1F3FF,200D,2696,FE0F 12:light_skin_tone=1F469,1F3FB,200D,2696,FE0F
  12:medium-dark_skin_tone=1F469,1F3FE,200D,2696,FE0F 19:light_skin_tone=1F469,1F3FC,200D,2696,FE0F
  18:_skin_tone=1F469,1F3FD,200D,2696,FE0F 8:ggling=1F939,200D,2640,FE0F
  14:_dark_skin_tone=1F939,1F3FF,200D,2640,FE0F 15:light_skin_tone=1F939,1F3FB,200D,2640,FE0F
  15:medium-dark_skin_tone=1F939,1F3FE,200D,2640,FE0F 22:light_skin_tone=1F939,1F3FC,200D,2640,FE0F
  21:_skin_tone=1F939,1F3FD,200D,2640,FE0F 6:lifting_weights=1F3CB,FE0F,200D,2640,FE0F
  21:_dark_skin_tone=1F3CB,1F3FF,200D,2640,FE0F 22:light_skin_tone=1F3CB,1F3FB,200D,2640,FE0F
  22:medium-dark_skin_tone=1F3CB,1F3FE,200D,2640,FE0F 29:light_skin_tone=1F3CB,1F3FC,200D,2640,FE0F
  28:_skin_tone=1F3CB,1F3FD,200D,2640,FE0F 8:ght_skin_tone=1F469,1F3FB 6:mage=1F9D9,200D,2640,FE0F
  10:_dark_skin_tone=1F9D9,1F3FF,200D,2640,FE0F 11:light_skin_tone=1F9D9,1F3FB,200D,2640,FE0F
  11:medium-dark_skin_tone=1F9D9,1F3FE,200D,2640,FE0F 18:light_skin_tone=1F9D9,1F3FC,200D,2640,FE0F
  17:_skin_tone=1F9D9,1F3FD,200D,2640,FE0F 7:echanic=1F469,200D,1F527
  14:_dark_skin_tone=1F469,1F3FF,200D,1F527 15:light_skin_tone=1F469,1F3FB,200D,1F527
  15:medium-dark_skin_tone=1F469,1F3FE,200D,1F527 22:light_skin_tone=1F469,1F3FC,200D,1F527
  21:_skin_tone=1F469,1F3FD,200D,1F527 8:dium-dark_skin_tone=1F469,1F3FE
  13:light_skin_tone=1F469,1F3FC 12:_skin_tone=1F469,1F3FD 7:ountain_biking=1F6B5,200D,2640,FE0F
  21:_dark_skin_tone=1F6B5,1F3FF,200D,2640,FE0F 22:light_skin_tone=1F6B5,1F3FB,200D,2640,FE0F
  22:medium-dark_skin_tone=1F6B5,1F3FE,200D,2640,FE0F 29:light_skin_tone=1F6B5,1F3FC,200D,2640,FE0F
  28:_skin_tone=1F6B5,1F3FD,200D,2640,FE0F 6:office_worker=1F469,200D,1F4BC
  19:_dark_skin_tone=1F469,1F3FF,200D,1F4BC 20:light_skin_tone=1F469,1F3FB,200D,1F4BC
  20:medium-dark_skin_tone=1F469,1F3FE,200D,1F4BC 27:light_skin_tone=1F469,1F3FC,200D,1F4BC
  26:_skin_tone=1F469,1F3FD,200D,1F4BC 6:pilot=1F469,200D,2708,FE0F
  11:_dark_skin_tone=1F469,1F3FF,200D,2708,FE0F 12:light_skin_tone=1F469,1F3FB,200D,2708,FE0F
  12:medium-dark_skin_tone=1F469,1F3FE,200D,2708,FE0F 19:light_skin_tone=1F469,1F3FC,200D,2708,FE0F
  18:_skin_tone=1F469,1F3FD,200D,2708,FE0F 7:laying_handball=1F93E,200D,2640,FE0F
  22:_dark_skin_tone=1F93E,1F3FF,200D,2640,FE0F 23:light_skin_tone=1F93E,1F3FB,200D,2640,FE0F
  23:medium-dark_skin_tone=1F93E,1F3FE,200D,2640,FE0F 30:light_skin_tone=1F93E,1F3FC,200D,2640,FE0F
  29:_skin_tone=1F93E,1F3FD,200D,2640,FE0F 14:water_polo=1F93D,200D,2640,FE0F
  24:_dark_skin_tone=1F93D,1F3FF,200D,2640,FE0F 25:light_skin_tone=1F93D,1F3FB,200D,2640,FE0F
  25:medium-dark_skin_tone=1F93D,1F3FE,200D,2640,FE0F 32:light_skin_tone=1F93D,1F3FC,200D,2640,FE0F
  31:_skin_tone=1F93D,1F3FD,200D,2640,FE0F 7:olice_officer=1F46E,200D,2640,FE0F
  20:_dark_skin_tone=1F46E,1F3FF,200D,2640,FE0F 21:light_skin_tone=1F46E,1F3FB,200D,2640,FE0F
  21:medium-dark_skin_tone=1F46E,1F3FE,200D,2640,FE0F 28:light_skin_tone=1F46E,1F3FC,200D,2640,FE0F
  27:_skin_tone=1F46E,1F3FD,200D,2640,FE0F 8:uting=1F64E,200D,2640,FE0F
  13:_dark_skin_tone=1F64E,1F3FF,200D,2640,FE0F 14:light_skin_tone=1F64E,1F3FB,200D,2640,FE0F
  14:medium-dark_skin_tone=1F64E,1F3FE,200D,2640,FE0F 21:light_skin_tone=1F64E,1F3FC,200D,2640,FE0F
  20:_skin_tone=1F64E,1F3FD,200D,2640,FE0F 6:raising_hand=1F64B,200D,2640,FE0F
  18:_dark_skin_tone=1F64B,1F3FF,200D,2640,FE0F 19:light_skin_tone=1F64B,1F3FB,200D,2640,FE0F
  19:medium-dark_skin_tone=1F64B,1F3FE,200D,2640,FE0F 26:light_skin_tone=1F64B,1F3FC,200D,2640,FE0F
  25:_skin_tone=1F64B,1F3FD,200D,2640,FE0F 7:owing_boat=1F6A3,200D,2640,FE0F
  17:_dark_skin_tone=1F6A3,1F3FF,200D,2640,FE0F 18:light_skin_tone=1F6A3,1F3FB,200D,2640,FE0F
  18:medium-dark_skin_tone=1F6A3,1F3FE,200D,2640,FE0F 25:light_skin_tone=1F6A3,1F3FC,200D,2640,FE0F
  24:_skin_tone=1F6A3,1F3FD,200D,2640,FE0F 7:unning=1F3C3,200D,2640,FE0F
  13:_dark_skin_tone=1F3C3,1F3FF,200D,2640,FE0F 14:light_skin_tone=1F3C3,1F3FB,200D,2640,FE0F
  14:medium-dark_skin_tone=1F3C3,1F3FE,200D,2640,FE0F 21:light_skin_tone=1F3C3,1F3FC,200D,2640,FE0F
  20:_skin_tone=1F3C3,1F3FD,200D,2640,FE0F 6:scientist=1F469,200D,1F52C
  15:_dark_skin_tone=1F469,1F3FF,200D,1F52C 16:light_skin_tone=1F469,1F3FB,200D,1F52C
  16:medium-dark_skin_tone=1F469,1F3FE,200D,1F52C 23:light_skin_tone=1F469,1F3FC,200D,1F52C
  22:_skin_tone=1F469,1F3FD,200D,1F52C 7:hrugging=1F937,200D,2640,FE0F
  15:_dark_skin_tone=1F937,1F3FF,200D,2640,FE0F 16:light_skin_tone=1F937,1F3FB,200D,2640,FE0F
  16:medium-dark_skin_tone=1F937,1F3FE,200D,2640,FE0F 23:light_skin_tone=1F937,1F3FC,200D,2640,FE0F
  22:_skin_tone=1F937,1F3FD,200D,2640,FE0F 7:inger=1F469,200D,1F3A4
  12:_dark_skin_tone=1F469,1F3FF,200D,1F3A4 13:light_skin_tone=1F469,1F3FB,200D,1F3A4
  13:medium-dark_skin_tone=1F469,1F3FE,200D,1F3A4 20:light_skin_tone=1F469,1F3FC,200D,1F3A4
  19:_skin_tone=1F469,1F3FD,200D,1F3A4 7:tudent=1F469,200D,1F393
  13:_dark_skin_tone=1F469,1F3FF,200D,1F393 14:light_skin_tone=1F469,1F3FB,200D,1F393
  14:medium-dark_skin_tone=1F469,1F3FE,200D,1F393 21:light_skin_tone=1F469,1F3FC,200D,1F393
  20:_skin_tone=1F469,1F3FD,200D,1F393 7:urfing=1F3C4,200D,2640,FE0F
  13:_dark_skin_tone=1F3C4,1F3FF,200D,2640,FE0F 14:light_skin_tone=1F3C4,1F3FB,200D,2640,FE0F
  14:medium-dark_skin_tone=1F3C4,1F3FE,200D,2640,FE0F 21:light_skin_tone=1F3C4,1F3FC,200D,2640,FE0F
  20:_skin_tone=1F3C4,1F3FD,200D,2640,FE0F 7:wimming=1F3CA,200D,2640,FE0F
  14:_dark_skin_tone=1F3CA,1F3FF,200D,2640,FE0F 15:light_skin_tone=1F3CA,1F3FB,200D,2640,FE0F
  15:medium-dark_skin_tone=1F3CA,1F3FE,200D,2640,FE0F 22:light_skin_tone=1F3CA,1F3FC,200D,2640,FE0F
  21:_skin_tone=1F3CA,1F3FD,200D,2640,FE0F 6:teacher=1F469,200D,1F3EB
  13:_dark_skin_tone=1F469,1F3FF,200D,1F3EB 14:light_skin_tone=1F469,1F3FB,200D,1F3EB
  14:medium-dark_skin_tone=1F469,1F3FE,200D,1F3EB 21:light_skin_tone=1F469,1F3FC,200D,1F3EB
  20:_skin_tone=1F469,1F3FD,200D,1F3EB 8:chnologist=1F469,200D,1F4BB
  18:_dark_skin_tone=1F469,1F3FF,200D,1F4BB 19:light_skin_tone=1F469,1F3FB,200D,1F4BB
  19:medium-dark_skin_tone=1F469,1F3FE,200D,1F4BB 26:light_skin_tone=1F469,1F3FC,200D,1F4BB
  25:_skin_tone=1F469,1F3FD,200D,1F4BB 7:ipping_hand=1F481,200D,2640,FE0F
  18:_dark_skin_tone=1F481,1F3FF,200D,2640,FE0F 19:light_skin_tone=1F481,1F3FB,200D,2640,FE0F
  19:medium-dark_skin_tone=1F481,1F3FE,200D,2640,FE0F 26:light_skin_tone=1F481,1F3FC,200D,2640,FE0F
  25:_skin_tone=1F481,1F3FD,200D,2640,FE0F 6:vampire=1F9DB,200D,2640,FE0F
  13:_dark_skin_tone=1F9DB,1F3FF,200D,2640,FE0F 14:light_skin_tone=1F9DB,1F3FB,200D,2640,FE0F
  14:medium-dark_skin_tone=1F9DB,1F3FE,200D,2640,FE0F 21:light_skin_tone=1F9DB,1F3FC,200D,2640,FE0F
  20:_skin_tone=1F9DB,1F3FD,200D,2640,FE0F 6:walking=1F6B6,200D,2640,FE0F
  13:_dark_skin_tone=1F6B6,1F3FF,200D,2640,FE0F 14:light_skin_tone=1F6B6,1F3FB,200D,2640,FE0F
  14:medium-dark_skin_tone=1F6B6,1F3FE,200D,2640,FE0F 21:light_skin_tone=1F6B6,1F3FC,200D,2640,FE0F
  20:_skin_tone=1F6B6,1F3FD,200D,2640,FE0F 7:earing_turban=1F473,200D,2640,FE0F
  20:_dark_skin_tone=1F473,1F3FF,200D,2640,FE0F 21:light_skin_tone=1F473,1F3FB,200D,2640,FE0F
  21:medium-dark_skin_tone=1F473,1F3FE,200D,2640,FE0F 28:light_skin_tone=1F473,1F3FC,200D,2640,FE0F
  27:_skin_tone=1F473,1F3FD,200D,2640,FE0F 7:ith_headscarf=1F9D5 20:_dark_skin_tone=1F9D5,1F3FF
  21:light_skin_tone=1F9D5,1F3FB 21:medium-dark_skin_tone=1F9D5,1F3FE 28:light_skin_tone=1F9D5,1F3FC
  27:_skin_tone=1F9D5,1F3FD 11:probing_cane=1F469,200D,1F9AF 6:zombie=1F9DF,200D,2640,FE0F
  5:s_clothes=1F45A 7:hat=1F452 5:’s_boot=1F462 8:clothes=1F45A 8:hat=1F452 8:sandal=1F461
  3:en_with_bunny_ears=1F46F,200D,2640,FE0F 7:restling=1F93C,200D,2640,FE0F 5:s=1F6BA
  5:’s_room=1F6BA 2:ozy_face=1F974 2:rld_map=1F5FA 3:ried=1F61F 7:_face=1F61F 1:rapped_gift=1F381
  2:ench=1F527 2:iting_hand=270D 12:_dark_skin_tone=270D,1F3FF 13:light_skin_tone=270D,1F3FB
  13:medium-dark_skin_tone=270D,1F3FE 20:light_skin_tone=270D,1F3FC 19:_skin_tone=270D,1F3FD
  0:x=274C 0:yarn=1F9F6 2:wning_face=1F971 1:ellow_circle=1F7E1 7:heart=1F49B 7:square=1F7E8
  2:men=1F1FE,1F1EA 2:n=1F4B4 3:_banknote=1F4B4 1:in_yang=262F 1:o-yo=1FA80 1:um=1F60B
  0:zambia=1F1FF,1F1F2 2:ny_face=1F92A 2:p=26A1 1:ebra=1F993 2:ro=30,FE0F,20E3 1:imbabwe=1F1FF,1F1FC
  2:pper-mouth_face=1F910 6:__mouth_face=1F910 1:ombie=1F9DF 1:zz=1F4A4 0:åland_islands=1F1E6,1F1FD"

end Overlay.Terminal
