/-!
# Emoji names: s
-/

namespace JavaHome.Terminal.Emoji

/-- The names under s. -/
def namesS : List (String × String) :=
  [("soon_arrow", "🔜"), ("sos_button", "🆘"), ("sagittarius", "♐"), ("samoa", "🇼🇸"),
    ("san_marino", "🇸🇲"), ("santa_claus", "🎅"), ("santa_claus_dark_skin_tone", "🎅🏿"),
    ("santa_claus_light_skin_tone", "🎅🏻"), ("santa_claus_medium-dark_skin_tone", "🎅🏾"),
    ("santa_claus_medium-light_skin_tone", "🎅🏼"), ("santa_claus_medium_skin_tone", "🎅🏽"),
    ("saudi_arabia", "🇸🇦"), ("scorpio", "♏"), ("scotland", "🏴󠁧󠁢󠁳󠁣󠁴󠁿"), ("senegal", "🇸🇳"),
    ("serbia", "🇷🇸"), ("seychelles", "🇸🇨"), ("sierra_leone", "🇸🇱"), ("singapore", "🇸🇬"),
    ("sint_maarten", "🇸🇽"), ("slovakia", "🇸🇰"), ("slovenia", "🇸🇮"), ("solomon_islands", "🇸🇧"),
    ("somalia", "🇸🇴"), ("south_africa", "🇿🇦"), ("south_georgia_&_south_sandwich_islands", "🇬🇸"),
    ("south_korea", "🇰🇷"), ("south_sudan", "🇸🇸"), ("spain", "🇪🇸"), ("sri_lanka", "🇱🇰"),
    ("st._barthélemy", "🇧🇱"), ("st._helena", "🇸🇭"), ("st._kitts_&_nevis", "🇰🇳"),
    ("st._lucia", "🇱🇨"), ("st._martin", "🇲🇫"), ("st._pierre_&_miquelon", "🇵🇲"),
    ("st._vincent_&_grenadines", "🇻🇨"), ("statue_of_liberty", "🗽"), ("sudan", "🇸🇩"),
    ("suriname", "🇸🇷"), ("svalbard_&_jan_mayen", "🇸🇯"), ("swaziland", "🇸🇿"), ("sweden", "🇸🇪"),
    ("switzerland", "🇨🇭"), ("syria", "🇸🇾"), ("são_tomé_&_príncipe", "🇸🇹"),
    ("sad_but_relieved_face", "😥"), ("safety_pin", "🧷"), ("safety_vest", "🦺"), ("salt", "🧂"),
    ("sailboat", "⛵"), ("sake", "🍶"), ("sandwich", "🥪"), ("sari", "🥻"), ("satellite", "📡"),
    ("satellite_antenna", "📡"), ("sauropod", "🦕"), ("saxophone", "🎷"), ("scarf", "🧣"),
    ("school", "🏫"), ("school_backpack", "🎒"), ("scissors", "✂"), ("scorpion", "🦂"),
    ("scroll", "📜"), ("seat", "💺"), ("see-no-evil_monkey", "🙈"), ("seedling", "🌱"), ("selfie", "🤳"),
    ("selfie_dark_skin_tone", "🤳🏿"), ("selfie_light_skin_tone", "🤳🏻"),
    ("selfie_medium-dark_skin_tone", "🤳🏾"), ("selfie_medium-light_skin_tone", "🤳🏼"),
    ("selfie_medium_skin_tone", "🤳🏽"), ("service_dog", "🐕‍🦺"), ("seven-thirty", "🕢"),
    ("seven_o’clock", "🕖"), ("shallow_pan_of_food", "🥘"), ("shamrock", "☘"), ("shark", "🦈"),
    ("shaved_ice", "🍧"), ("sheaf_of_rice", "🌾"), ("shield", "🛡"), ("shinto_shrine", "⛩"),
    ("ship", "🚢"), ("shooting_star", "🌠"), ("shopping_bags", "🛍"), ("shopping_cart", "🛒"),
    ("shortcake", "🍰"), ("shorts", "🩳"), ("shower", "🚿"), ("shrimp", "🦐"),
    ("shuffle_tracks_button", "🔀"), ("shushing_face", "🤫"), ("sign_of_the_horns", "🤘"),
    ("sign_of_the_horns_dark_skin_tone", "🤘🏿"), ("sign_of_the_horns_light_skin_tone", "🤘🏻"),
    ("sign_of_the_horns_medium-dark_skin_tone", "🤘🏾"),
    ("sign_of_the_horns_medium-light_skin_tone", "🤘🏼"),
    ("sign_of_the_horns_medium_skin_tone", "🤘🏽"), ("six-thirty", "🕡"), ("six_o’clock", "🕕"),
    ("skateboard", "🛹"), ("skier", "⛷"), ("skis", "🎿"), ("skull", "💀"),
    ("skull_and_crossbones", "☠"), ("skunk", "🦨"), ("sled", "🛷"), ("sleeping_face", "😴"),
    ("sleepy_face", "😪"), ("slightly_frowning_face", "🙁"), ("slightly_smiling_face", "🙂"),
    ("slot_machine", "🎰"), ("sloth", "🦥"), ("small_airplane", "🛩"), ("small_blue_diamond", "🔹"),
    ("small_orange_diamond", "🔸"), ("smiling_cat_face_with_heart-eyes", "😻"), ("smiling_face", "☺"),
    ("smiling_face_with_halo", "😇"), ("smiling_face_with_3_hearts", "🥰"),
    ("smiling_face_with_heart-eyes", "😍"), ("smiling_face_with_horns", "😈"),
    ("smiling_face_with_smiling_eyes", "😊"), ("smiling_face_with_sunglasses", "😎"),
    ("smirking_face", "😏"), ("snail", "🐌"), ("snake", "🐍"), ("sneezing_face", "🤧"),
    ("snow-capped_mountain", "🏔"), ("snowboarder", "🏂"), ("snowboarder_dark_skin_tone", "🏂🏿"),
    ("snowboarder_light_skin_tone", "🏂🏻"), ("snowboarder_medium-dark_skin_tone", "🏂🏾"),
    ("snowboarder_medium-light_skin_tone", "🏂🏼"), ("snowboarder_medium_skin_tone", "🏂🏽"),
    ("snowflake", "❄"), ("snowman", "☃"), ("snowman_without_snow", "⛄"), ("soap", "🧼"),
    ("soccer_ball", "⚽"), ("socks", "🧦"), ("softball", "🥎"), ("soft_ice_cream", "🍦"),
    ("spade_suit", "♠"), ("spaghetti", "🍝"), ("sparkle", "❇"), ("sparkler", "🎇"), ("sparkles", "✨"),
    ("sparkling_heart", "💖"), ("speak-no-evil_monkey", "🙊"), ("speaker_high_volume", "🔊"),
    ("speaker_low_volume", "🔈"), ("speaker_medium_volume", "🔉"), ("speaking_head", "🗣"),
    ("speech_balloon", "💬"), ("speedboat", "🚤"), ("spider", "🕷"), ("spider_web", "🕸"),
    ("spiral_calendar", "🗓"), ("spiral_notepad", "🗒"), ("spiral_shell", "🐚"), ("spoon", "🥄"),
    ("sponge", "🧽"), ("sport_utility_vehicle", "🚙"), ("sports_medal", "🏅"), ("spouting_whale", "🐳"),
    ("squid", "🦑"), ("squinting_face_with_tongue", "😝"), ("stadium", "🏟"), ("star-struck", "🤩"),
    ("star_and_crescent", "☪"), ("star_of_david", "✡"), ("station", "🚉"), ("steaming_bowl", "🍜"),
    ("stethoscope", "🩺"), ("stop_button", "⏹"), ("stop_sign", "🛑"), ("stopwatch", "⏱"),
    ("straight_ruler", "📏"), ("strawberry", "🍓"), ("studio_microphone", "🎙"),
    ("stuffed_flatbread", "🥙"), ("sun", "☀"), ("sun_behind_cloud", "⛅"),
    ("sun_behind_large_cloud", "🌥"), ("sun_behind_rain_cloud", "🌦"),
    ("sun_behind_small_cloud", "🌤"), ("sun_with_face", "🌞"), ("sunflower", "🌻"),
    ("sunglasses", "😎"), ("sunrise", "🌅"), ("sunrise_over_mountains", "🌄"), ("sunset", "🌇"),
    ("superhero", "🦸"), ("supervillain", "🦹"), ("sushi", "🍣"), ("suspension_railway", "🚟"),
    ("swan", "🦢"), ("sweat_droplets", "💦"), ("synagogue", "🕍"), ("syringe", "💉"),
    ("space_invader", "👾"), ("signal_strength", "📶"), ("spades", "♠"), ("sunny", "☀"),
    ("smirk_cat", "😼"), ("secret", "㊙"), ("small_red_triangle_down", "🔻"), ("scream", "😱"),
    ("sweat", "😓"), ("stuck_out_tongue", "😛"), ("stuck_out_tongue_closed_eyes", "😝"),
    ("stuck_out_tongue_winking_eye", "😜"), ("santa", "🎅"), ("star2", "🌟"), ("smile_cat", "😸"),
    ("symbols", "🔣"), ("six", "6️⃣"), ("seven", "7️⃣"), ("sob", "😭"), ("shoe", "👞"), ("shit", "💩"),
    ("stew", "🍲"), ("sweet_potato", "🍠"), ("scales", "⚖"), ("school_satchel", "🎒"),
    ("scorpius", "♏"), ("see_no_evil", "🙈"), ("sheep", "🐑"), ("stars", "🌠"),
    ("six_pointed_star", "🔯"), ("ski", "🎿"), ("sleeping_accommodation", "🛌"), ("sleeping", "😴"),
    ("sleepy", "😪"), ("sleuth_or_spy", "🕵"), ("smiley_cat", "😺"), ("smiling_imp", "😈"),
    ("smiley", "😃"), ("sweat_smile", "😅"), ("smile", "😄"), ("satisfied", "😆"), ("smirk", "😏"),
    ("smoking", "🚬"), ("snow_capped_mountain", "🏔"), ("soccer", "⚽"), ("soon", "🔜"),
    ("speak_no_evil", "🙊"), ("speaker", "🔈"), ("sound", "🔉"), ("speaking_head_in_silhouette", "🗣"),
    ("spiral_calendar_pad", "🗓"), ("spiral_note_pad", "🗒"), ("shell", "🐚"), ("sweat_drops", "💦"),
    ("sa", "🈂"), ("sos", "🆘"), ("steam_locomotive", "🚂"), ("surfer", "🏄"), ("swimmer", "🏊"),
    ("shirt", "👕"), ("small_red_triangle", "🔺"), ("scream_cat", "🙀"), ("star", "⭐"),
    ("sandal", "👡")]

end JavaHome.Terminal.Emoji
