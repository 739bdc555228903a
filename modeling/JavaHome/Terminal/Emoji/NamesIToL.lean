/-!
# Emoji names: i to l
-/

namespace JavaHome.Terminal.Emoji

/-- The names under i to l. -/
def namesIToL : List (String × String) :=
  [("id_button", "🆔"), ("iceland", "🇮🇸"), ("india", "🇮🇳"), ("indonesia", "🇮🇩"), ("iran", "🇮🇷"),
    ("iraq", "🇮🇶"), ("ireland", "🇮🇪"), ("isle_of_man", "🇮🇲"), ("israel", "🇮🇱"), ("italy", "🇮🇹"),
    ("jamaica", "🇯🇲"), ("japan", "🗾"), ("japanese_acceptable_button", "🉑"),
    ("japanese_application_button", "🈸"), ("japanese_bargain_button", "🉐"),
    ("japanese_castle", "🏯"), ("japanese_congratulations_button", "㊗"),
    ("japanese_discount_button", "🈹"), ("japanese_dolls", "🎎"),
    ("japanese_free_of_charge_button", "🈚"), ("japanese_here_button", "🈁"),
    ("japanese_monthly_amount_button", "🈷"), ("japanese_no_vacancy_button", "🈵"),
    ("japanese_not_free_of_charge_button", "🈶"), ("japanese_open_for_business_button", "🈺"),
    ("japanese_passing_grade_button", "🈴"), ("japanese_post_office", "🏣"),
    ("japanese_prohibited_button", "🈲"), ("japanese_reserved_button", "🈯"),
    ("japanese_secret_button", "㊙"), ("japanese_service_charge_button", "🈂"),
    ("japanese_symbol_for_beginner", "🔰"), ("japanese_vacancy_button", "🈳"), ("jersey", "🇯🇪"),
    ("jordan", "🇯🇴"), ("kazakhstan", "🇰🇿"), ("kenya", "🇰🇪"), ("kiribati", "🇰🇮"), ("kosovo", "🇽🇰"),
    ("kuwait", "🇰🇼"), ("kyrgyzstan", "🇰🇬"), ("laos", "🇱🇦"), ("latvia", "🇱🇻"), ("lebanon", "🇱🇧"),
    ("leo", "♌"), ("lesotho", "🇱🇸"), ("liberia", "🇱🇷"), ("libra", "♎"), ("libya", "🇱🇾"),
    ("liechtenstein", "🇱🇮"), ("lithuania", "🇱🇹"), ("luxembourg", "🇱🇺"), ("ice", "🧊"),
    ("ice_cream", "🍨"), ("ice_hockey", "🏒"), ("ice_skate", "⛸"), ("inbox_tray", "📥"),
    ("incoming_envelope", "📨"), ("index_pointing_up", "☝"),
    ("index_pointing_up_dark_skin_tone", "☝🏿"), ("index_pointing_up_light_skin_tone", "☝🏻"),
    ("index_pointing_up_medium-dark_skin_tone", "☝🏾"),
    ("index_pointing_up_medium-light_skin_tone", "☝🏼"),
    ("index_pointing_up_medium_skin_tone", "☝🏽"), ("infinity", "♾"), ("information", "ℹ"),
    ("input_latin_letters", "🔤"), ("input_latin_lowercase", "🔡"), ("input_latin_uppercase", "🔠"),
    ("input_numbers", "🔢"), ("input_symbols", "🔣"), ("jack-o-lantern", "🎃"), ("jeans", "👖"),
    ("jigsaw", "🧩"), ("joker", "🃏"), ("joystick", "🕹"), ("kaaba", "🕋"), ("kangaroo", "🦘"),
    ("key", "🔑"), ("keyboard", "⌨"), ("keycap_#", "#️⃣"), ("keycap_*", "*️⃣"), ("keycap_0", "0️⃣"),
    ("keycap_1", "1️⃣"), ("keycap_10", "🔟"), ("keycap_2", "2️⃣"), ("keycap_3", "3️⃣"),
    ("keycap_4", "4️⃣"), ("keycap_5", "5️⃣"), ("keycap_6", "6️⃣"), ("keycap_7", "7️⃣"),
    ("keycap_8", "8️⃣"), ("keycap_9", "9️⃣"), ("kick_scooter", "🛴"), ("kimono", "👘"), ("kiss", "💋"),
    ("kiss_man_man", "👨‍❤️‍💋‍👨"), ("kiss_mark", "💋"), ("kiss_woman_man", "👩‍❤️‍💋‍👨"),
    ("kiss_woman_woman", "👩‍❤️‍💋‍👩"), ("kissing_cat_face", "😽"), ("kissing_face", "😗"),
    ("kissing_face_with_closed_eyes", "😚"), ("kissing_face_with_smiling_eyes", "😙"),
    ("kitchen_knife", "🔪"), ("kite", "🪁"), ("kiwi_fruit", "🥝"), ("koala", "🐨"), ("lab_coat", "🥼"),
    ("label", "🏷"), ("lacrosse", "🥍"), ("lady_beetle", "🐞"), ("laptop_computer", "💻"),
    ("large_blue_diamond", "🔷"), ("large_orange_diamond", "🔶"), ("last_quarter_moon", "🌗"),
    ("last_quarter_moon_face", "🌜"), ("last_track_button", "⏮"), ("latin_cross", "✝"),
    ("leaf_fluttering_in_wind", "🍃"), ("leafy_green", "🥬"), ("ledger", "📒"),
    ("left-facing_fist", "🤛"), ("left-facing_fist_dark_skin_tone", "🤛🏿"),
    ("left-facing_fist_light_skin_tone", "🤛🏻"), ("left-facing_fist_medium-dark_skin_tone", "🤛🏾"),
    ("left-facing_fist_medium-light_skin_tone", "🤛🏼"), ("left-facing_fist_medium_skin_tone", "🤛🏽"),
    ("left-right_arrow", "↔"), ("left_arrow", "⬅"), ("left_arrow_curving_right", "↪"),
    ("left_luggage", "🛅"), ("left_speech_bubble", "🗨"), ("leg", "🦵"), ("lemon", "🍋"),
    ("leopard", "🐆"), ("level_slider", "🎚"), ("light_bulb", "💡"), ("light_rail", "🚈"),
    ("link", "🔗"), ("linked_paperclips", "🖇"), ("lion_face", "🦁"), ("lipstick", "💄"),
    ("litter_in_bin_sign", "🚮"), ("lizard", "🦎"), ("llama", "🦙"), ("lobster", "🦞"), ("locked", "🔒"),
    ("locked_with_key", "🔐"), ("locked_with_pen", "🔏"), ("locomotive", "🚂"), ("lollipop", "🍭"),
    ("lotion_bottle", "🧴"), ("loudly_crying_face", "😭"), ("loudspeaker", "📢"),
    ("love-you_gesture", "🤟"), ("love-you_gesture_dark_skin_tone", "🤟🏿"),
    ("love-you_gesture_light_skin_tone", "🤟🏻"), ("love-you_gesture_medium-dark_skin_tone", "🤟🏾"),
    ("love-you_gesture_medium-light_skin_tone", "🤟🏼"), ("love-you_gesture_medium_skin_tone", "🤟🏽"),
    ("love_hotel", "🏩"), ("love_letter", "💌"), ("luggage", "🧳"), ("lying_face", "🤥"),
    ("keycap_asterisk", "*⃣"), ("keycap_digit_eight", "8⃣"), ("keycap_digit_five", "5⃣"),
    ("keycap_digit_four", "4⃣"), ("keycap_digit_nine", "9⃣"), ("keycap_digit_one", "1⃣"),
    ("keycap_digit_seven", "7⃣"), ("keycap_digit_six", "6⃣"), ("keycap_digit_three", "3⃣"),
    ("keycap_digit_two", "2⃣"), ("keycap_digit_zero", "0⃣"), ("keycap_number_sign", "#⃣"),
    ("light_skin_tone", "🏻"), ("joy_cat", "😹"), ("ideograph_advantage", "🉐"), ("loop", "➿"),
    ("interrobang", "⁉"), ("kissing_heart", "😘"), ("joy", "😂"), ("knife", "🔪"),
    ("ice_hockey_stick_and_puck", "🏒"), ("imp", "👿"), ("information_desk_person", "💁"),
    ("information_source", "ℹ"), ("izakaya_lantern", "🏮"), ("lantern", "🏮"),
    ("jack_o_lantern", "🎃"), ("japanese_goblin", "👺"), ("japanese_ogre", "👹"), ("kissing_cat", "😽"),
    ("kissing", "😗"), ("kissing_closed_eyes", "😚"), ("kissing_smiling_eyes", "😙"),
    ("large_blue_circle", "🔵"), ("last_quarter_moon_with_face", "🌜"), ("leaves", "🍃"),
    ("left_right_arrow", "↔"), ("leftwards_arrow_with_hook", "↩"), ("lock", "🔒"),
    ("lock_with_ink_pen", "🔏"), ("low_brightness", "🔅"), ("lower_left_ballpoint_pen", "🖊"),
    ("lower_left_crayon", "🖍"), ("lower_left_fountain_pen", "🖋"), ("lower_left_paintbrush", "🖌"),
    ("iphone", "📱"), ("lips", "👄"), ("innocent", "😇"), ("laughing", "😆"), ("icecream", "🍦"),
    ("loud_sound", "🔊"), ("id", "🆔"), ("koko", "🈁")]

end JavaHome.Terminal.Emoji
