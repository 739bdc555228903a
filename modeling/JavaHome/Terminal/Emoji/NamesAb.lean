/-!
# Emoji names: a and b, and of those that do not begin with a letter
-/

namespace JavaHome.Terminal.Emoji

/-- The names under a and b, and of those that do not begin with a letter. -/
def namesAb : List (String × String) :=
  [("1st_place_medal", "🥇"), ("2nd_place_medal", "🥈"), ("3rd_place_medal", "🥉"),
    ("ab_button_(blood_type)", "🆎"), ("atm_sign", "🏧"), ("a_button_(blood_type)", "🅰"),
    ("afghanistan", "🇦🇫"), ("albania", "🇦🇱"), ("algeria", "🇩🇿"), ("american_samoa", "🇦🇸"),
    ("andorra", "🇦🇩"), ("angola", "🇦🇴"), ("anguilla", "🇦🇮"), ("antarctica", "🇦🇶"),
    ("antigua_&_barbuda", "🇦🇬"), ("aquarius", "♒"), ("argentina", "🇦🇷"), ("aries", "♈"),
    ("armenia", "🇦🇲"), ("aruba", "🇦🇼"), ("ascension_island", "🇦🇨"), ("australia", "🇦🇺"),
    ("austria", "🇦🇹"), ("azerbaijan", "🇦🇿"), ("back_arrow", "🔙"), ("b_button_(blood_type)", "🅱"),
    ("bahamas", "🇧🇸"), ("bahrain", "🇧🇭"), ("bangladesh", "🇧🇩"), ("barbados", "🇧🇧"),
    ("belarus", "🇧🇾"), ("belgium", "🇧🇪"), ("belize", "🇧🇿"), ("benin", "🇧🇯"), ("bermuda", "🇧🇲"),
    ("bhutan", "🇧🇹"), ("bolivia", "🇧🇴"), ("bosnia_&_herzegovina", "🇧🇦"), ("botswana", "🇧🇼"),
    ("bouvet_island", "🇧🇻"), ("brazil", "🇧🇷"), ("british_indian_ocean_territory", "🇮🇴"),
    ("british_virgin_islands", "🇻🇬"), ("brunei", "🇧🇳"), ("bulgaria", "🇧🇬"), ("burkina_faso", "🇧🇫"),
    ("burundi", "🇧🇮"), ("abacus", "🧮"), ("adhesive_bandage", "🩹"), ("admission_tickets", "🎟"),
    ("adult", "🧑"), ("adult_dark_skin_tone", "🧑🏿"), ("adult_light_skin_tone", "🧑🏻"),
    ("adult_medium-dark_skin_tone", "🧑🏾"), ("adult_medium-light_skin_tone", "🧑🏼"),
    ("adult_medium_skin_tone", "🧑🏽"), ("aerial_tramway", "🚡"), ("airplane", "✈"),
    ("airplane_arrival", "🛬"), ("airplane_departure", "🛫"), ("alarm_clock", "⏰"), ("alembic", "⚗"),
    ("alien", "👽"), ("alien_monster", "👾"), ("ambulance", "🚑"), ("american_football", "🏈"),
    ("amphora", "🏺"), ("anchor", "⚓"), ("anger_symbol", "💢"), ("angry_face", "😠"),
    ("angry_face_with_horns", "👿"), ("anguished_face", "😧"), ("ant", "🐜"), ("antenna_bars", "📶"),
    ("anxious_face_with_sweat", "😰"), ("articulated_lorry", "🚛"), ("artist_palette", "🎨"),
    ("astonished_face", "😲"), ("atom_symbol", "⚛"), ("auto_rickshaw", "🛺"), ("automobile", "🚗"),
    ("avocado", "🥑"), ("axe", "🪓"), ("baby", "👶"), ("baby_angel", "👼"),
    ("baby_angel_dark_skin_tone", "👼🏿"), ("baby_angel_light_skin_tone", "👼🏻"),
    ("baby_angel_medium-dark_skin_tone", "👼🏾"), ("baby_angel_medium-light_skin_tone", "👼🏼"),
    ("baby_angel_medium_skin_tone", "👼🏽"), ("baby_bottle", "🍼"), ("baby_chick", "🐤"),
    ("baby_dark_skin_tone", "👶🏿"), ("baby_light_skin_tone", "👶🏻"),
    ("baby_medium-dark_skin_tone", "👶🏾"), ("baby_medium-light_skin_tone", "👶🏼"),
    ("baby_medium_skin_tone", "👶🏽"), ("baby_symbol", "🚼"), ("backhand_index_pointing_down", "👇"),
    ("backhand_index_pointing_down_dark_skin_tone", "👇🏿"),
    ("backhand_index_pointing_down_light_skin_tone", "👇🏻"),
    ("backhand_index_pointing_down_medium-dark_skin_tone", "👇🏾"),
    ("backhand_index_pointing_down_medium-light_skin_tone", "👇🏼"),
    ("backhand_index_pointing_down_medium_skin_tone", "👇🏽"), ("backhand_index_pointing_left", "👈"),
    ("backhand_index_pointing_left_dark_skin_tone", "👈🏿"),
    ("backhand_index_pointing_left_light_skin_tone", "👈🏻"),
    ("backhand_index_pointing_left_medium-dark_skin_tone", "👈🏾"),
    ("backhand_index_pointing_left_medium-light_skin_tone", "👈🏼"),
    ("backhand_index_pointing_left_medium_skin_tone", "👈🏽"), ("backhand_index_pointing_right", "👉"),
    ("backhand_index_pointing_right_dark_skin_tone", "👉🏿"),
    ("backhand_index_pointing_right_light_skin_tone", "👉🏻"),
    ("backhand_index_pointing_right_medium-dark_skin_tone", "👉🏾"),
    ("backhand_index_pointing_right_medium-light_skin_tone", "👉🏼"),
    ("backhand_index_pointing_right_medium_skin_tone", "👉🏽"), ("backhand_index_pointing_up", "👆"),
    ("backhand_index_pointing_up_dark_skin_tone", "👆🏿"),
    ("backhand_index_pointing_up_light_skin_tone", "👆🏻"),
    ("backhand_index_pointing_up_medium-dark_skin_tone", "👆🏾"),
    ("backhand_index_pointing_up_medium-light_skin_tone", "👆🏼"),
    ("backhand_index_pointing_up_medium_skin_tone", "👆🏽"), ("bacon", "🥓"), ("badger", "🦡"),
    ("badminton", "🏸"), ("bagel", "🥯"), ("baggage_claim", "🛄"), ("baguette_bread", "🥖"),
    ("balance_scale", "⚖"), ("bald", "🦲"), ("bald_man", "👨‍🦲"), ("bald_woman", "👩‍🦲"),
    ("ballet_shoes", "🩰"), ("balloon", "🎈"), ("ballot_box_with_ballot", "🗳"),
    ("ballot_box_with_check", "☑"), ("banana", "🍌"), ("banjo", "🪕"), ("bank", "🏦"),
    ("bar_chart", "📊"), ("barber_pole", "💈"), ("baseball", "⚾"), ("basket", "🧺"),
    ("basketball", "🏀"), ("bat", "🦇"), ("bathtub", "🛁"), ("battery", "🔋"),
    ("beach_with_umbrella", "🏖"), ("beaming_face_with_smiling_eyes", "😁"), ("bear_face", "🐻"),
    ("bearded_person", "🧔"), ("bearded_person_dark_skin_tone", "🧔🏿"),
    ("bearded_person_light_skin_tone", "🧔🏻"), ("bearded_person_medium-dark_skin_tone", "🧔🏾"),
    ("bearded_person_medium-light_skin_tone", "🧔🏼"), ("bearded_person_medium_skin_tone", "🧔🏽"),
    ("beating_heart", "💓"), ("bed", "🛏"), ("beer_mug", "🍺"), ("bell", "🔔"),
    ("bell_with_slash", "🔕"), ("bellhop_bell", "🛎"), ("bento_box", "🍱"), ("beverage_box", "🧃"),
    ("bicycle", "🚲"), ("bikini", "👙"), ("billed_cap", "🧢"), ("biohazard", "☣"), ("bird", "🐦"),
    ("birthday_cake", "🎂"), ("black_circle", "⚫"), ("black_flag", "🏴"), ("black_heart", "🖤"),
    ("black_large_square", "⬛"), ("black_medium-small_square", "◾"), ("black_medium_square", "◼"),
    ("black_nib", "✒"), ("black_small_square", "▪"), ("black_square_button", "🔲"),
    ("blond-haired_man", "👱‍♂️"), ("blond-haired_man_dark_skin_tone", "👱🏿‍♂️"),
    ("blond-haired_man_light_skin_tone", "👱🏻‍♂️"),
    ("blond-haired_man_medium-dark_skin_tone", "👱🏾‍♂️"),
    ("blond-haired_man_medium-light_skin_tone", "👱🏼‍♂️"),
    ("blond-haired_man_medium_skin_tone", "👱🏽‍♂️"), ("blond-haired_person", "👱"),
    ("blond-haired_person_dark_skin_tone", "👱🏿"), ("blond-haired_person_light_skin_tone", "👱🏻"),
    ("blond-haired_person_medium-dark_skin_tone", "👱🏾"),
    ("blond-haired_person_medium-light_skin_tone", "👱🏼"),
    ("blond-haired_person_medium_skin_tone", "👱🏽"), ("blond-haired_woman", "👱‍♀️"),
    ("blond-haired_woman_dark_skin_tone", "👱🏿‍♀️"), ("blond-haired_woman_light_skin_tone", "👱🏻‍♀️"),
    ("blond-haired_woman_medium-dark_skin_tone", "👱🏾‍♀️"),
    ("blond-haired_woman_medium-light_skin_tone", "👱🏼‍♀️"),
    ("blond-haired_woman_medium_skin_tone", "👱🏽‍♀️"), ("blossom", "🌼"), ("blowfish", "🐡"),
    ("blue_book", "📘"), ("blue_circle", "🔵"), ("blue_heart", "💙"), ("blue_square", "🟦"),
    ("boar", "🐗"), ("bomb", "💣"), ("bone", "🦴"), ("bookmark", "🔖"), ("bookmark_tabs", "📑"),
    ("books", "📚"), ("bottle_with_popping_cork", "🍾"), ("bouquet", "💐"), ("bow_and_arrow", "🏹"),
    ("bowl_with_spoon", "🥣"), ("bowling", "🎳"), ("boxing_glove", "🥊"), ("boy", "👦"),
    ("boy_dark_skin_tone", "👦🏿"), ("boy_light_skin_tone", "👦🏻"),
    ("boy_medium-dark_skin_tone", "👦🏾"), ("boy_medium-light_skin_tone", "👦🏼"),
    ("boy_medium_skin_tone", "👦🏽"), ("brain", "🧠"), ("bread", "🍞"), ("breast-feeding", "🤱"),
    ("breast-feeding_dark_skin_tone", "🤱🏿"), ("breast-feeding_light_skin_tone", "🤱🏻"),
    ("breast-feeding_medium-dark_skin_tone", "🤱🏾"), ("breast-feeding_medium-light_skin_tone", "🤱🏼"),
    ("breast-feeding_medium_skin_tone", "🤱🏽"), ("brick", "🧱"), ("bride_with_veil", "👰"),
    ("bride_with_veil_dark_skin_tone", "👰🏿"), ("bride_with_veil_light_skin_tone", "👰🏻"),
    ("bride_with_veil_medium-dark_skin_tone", "👰🏾"),
    ("bride_with_veil_medium-light_skin_tone", "👰🏼"), ("bride_with_veil_medium_skin_tone", "👰🏽"),
    ("bridge_at_night", "🌉"), ("briefcase", "💼"), ("briefs", "🩲"), ("bright_button", "🔆"),
    ("broccoli", "🥦"), ("broken_heart", "💔"), ("broom", "🧹"), ("brown_circle", "🟤"),
    ("brown_heart", "🤎"), ("brown_square", "🟫"), ("bug", "🐛"), ("building_construction", "🏗"),
    ("bullet_train", "🚅"), ("burrito", "🌯"), ("bus", "🚌"), ("bus_stop", "🚏"),
    ("bust_in_silhouette", "👤"), ("busts_in_silhouette", "👥"), ("butter", "🧈"), ("butterfly", "🦋"),
    ("åland_islands", "🇦🇽"), ("airplane_arriving", "🛬"), ("anger", "💢"), ("angry", "😠"),
    ("anguished", "😧"), ("arrows_counterclockwise", "🔄"), ("arrow_heading_down", "⤵"),
    ("arrow_heading_up", "⤴"), ("art", "🎨"), ("astonished", "😲"), ("athletic_shoe", "👟"),
    ("atm", "🏧"), ("angel", "👼"), ("back", "🔙"), ("badminton_racquet_and_shuttlecock", "🏸"),
    ("barber", "💈"), ("bath", "🛀"), ("bear", "🐻"), ("beer", "🍺"), ("bento", "🍱"), ("bike", "🚲"),
    ("bicyclist", "🚴"), ("8ball", "🎱"), ("biohazard_sign", "☣"), ("birthday", "🎂"),
    ("black_circle_for_record", "⏺"), ("arrow_double_down", "⏬"),
    ("black_left__pointing_double_triangle_with_vertical_bar", "⏮"), ("arrow_backward", "◀"),
    ("black_medium_small_square", "◾"),
    ("black_right__pointing_double_triangle_with_vertical_bar", "⏭"), ("arrow_forward", "▶"),
    ("black_right__pointing_triangle_with_double_vertical_bar", "⏯"), ("arrow_right", "➡"),
    ("black_square_for_stop", "⏹"), ("arrow_double_up", "⏫"), ("busstop", "🚏"), ("accept", "🉑"),
    ("beers", "🍻"), ("arrows_clockwise", "🔃"), ("boom", "💥"), ("bangbang", "‼"),
    ("arrow_down_small", "🔽"), ("arrow_down", "⬇"), ("bulb", "💡"), ("bullettrain_side", "🚄"),
    ("bullettrain_front", "🚅"), ("bee", "🐝"), ("100", "💯"), ("abc", "🔤"), ("abcd", "🔡"),
    ("1234", "🔢"), ("beginner", "🔰"), ("beetle", "🐞"), ("arrow_left", "⬅"), ("ab", "🆎"), ("a", "🅰"),
    ("b", "🅱"), ("arrow_upper_right", "↗"), ("arrow_upper_left", "↖"), ("book", "📖"), ("bow", "🙇"),
    ("bamboo", "🎍"), ("black_joker", "🃏"), ("blue_car", "🚙"), ("apple", "🍎"),
    ("arrow_right_hook", "↪"), ("boat", "⛵"), ("blush", "😊"), ("arrow_lower_right", "↘"),
    ("arrow_lower_left", "↙"), ("+1", "👍"), ("__1", "👎"), ("-1", "👎"), ("arrow_up_small", "🔼"),
    ("arrow_up_down", "↕"), ("arrow_up", "⬆"), ("boot", "👢")]

end JavaHome.Terminal.Emoji
